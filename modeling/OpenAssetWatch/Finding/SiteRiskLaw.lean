import OpenAssetWatch.Finding.RiskLaw

namespace OpenAssetWatch.Finding

open Library

def siteMaxWeight : ℚ := 1 / 2
def siteUpperQuartileWeight : ℚ := 3 / 10
def siteTopAverageWeight : ℚ := 1 / 5
def siteDirectFindingsWeight : ℚ := 7 / 20

structure RiskSite where
  siteId : Option String
deriving DecidableEq

def percentileNearestRank (values : List Nat) (percentile : ℚ) : Nat :=
  if values = [] then 0
  else
    let ordered := values.insertionSort (· ≤ ·)
    let rank := max 1 ⌈percentile * ordered.length⌉₊
    ordered.getD (rank - 1) 0

def maximum (values : List Nat) : Nat := values.foldr max 0

def topAverage (values : List Nat) : ℚ :=
  let topValues := (values.insertionSort (· ≥ ·)).take 10
  if topValues = [] then 0 else topValues.sum / topValues.length

def portfolioWeights (values : List Nat) : List ℚ :=
  [maximum values * siteMaxWeight, percentileNearestRank values (3 / 4) * siteUpperQuartileWeight,
    topAverage values * siteTopAverageWeight]

def portfolio (values : List Nat) : ℚ := (portfolioWeights values).sum

/-- A direct finding takes its part of what the portfolio leaves. -/
def directComponent (portfolio directScore : ℚ) : ℚ := (100 - portfolio) * (directScore / 100) * siteDirectFindingsWeight

def directScale (portfolio directScore : ℚ) : ℚ := if directScore = 0 then 0 else directComponent portfolio directScore / directScore

def isDirect (finding : RiskFinding) : Bool :=
  orText finding.assetId "" = "" && (strText finding.status = "active" || strText finding.status = "acknowledged")

def siteAssetScores (assetScores : List AssetRiskScore) (siteId : String) : List AssetRiskScore :=
  ((assetScores.foldl (fun bySite score => bySite.append score.siteId score) Dict.empty).get? siteId).getD []

def siteValues (assetScores : List AssetRiskScore) (siteId : String) : List Nat := (siteAssetScores assetScores siteId).map (·.score)

def directFindings (findings : List RiskFinding) (siteId : String) : List RiskFinding :=
  (((findings.filter isDirect).foldl (fun bySite finding => bySite.append (orText finding.siteId "") finding) Dict.empty).get? siteId).getD []

def portfolioFactor (label : String) (weight adjusted : ℚ) (ordinal : Nat) : RiskFactor :=
  { factorType := "portfolio", findingId := none, category := "asset-portfolio", label, severity := none, confidence := 1
    freshness := "fresh", baseWeight := weight, adjustedWeight := roundFour adjusted, ordinal }

def portfolioFactors (values : List Nat) : List RiskFactor :=
  let upperQuartile := percentileNearestRank values (3 / 4)
  [portfolioFactor "Highest asset risk" (maximum values) (maximum values * siteMaxWeight) 1,
    portfolioFactor "Upper-quartile asset risk" upperQuartile (upperQuartile * siteUpperQuartileWeight) 2,
    portfolioFactor "Top-ten asset risk average" (roundFour (topAverage values)) (topAverage values * siteTopAverageWeight) 3]

section Formula

variable (lower : String → String) (config : RiskConfig)

def siteDirectScore (findings : List RiskFinding) (siteId : String) : ℚ :=
  (findingContributions lower config (directFindings findings siteId)).2

def siteCombined (assetScores : List AssetRiskScore) (findings : List RiskFinding) (siteId : String) : ℚ :=
  let portfolio := portfolio (siteValues assetScores siteId)
  portfolio + directComponent portfolio (siteDirectScore lower config findings siteId)

/-- One turn of the loop over the sites. -/
def siteRisk (assetScores : List AssetRiskScore) (findings : List RiskFinding) (siteId : String) : SiteRiskScore :=
  let scores := siteAssetScores assetScores siteId
  let values := scores.map (·.score)
  let direct := directFindings findings siteId
  let (directFactors, directScore) := findingContributions lower config direct
  let scale := directScale (portfolio values) directScore
  let scaled := directFactors.map fun factor =>
    { factor with factorType := "site-finding", adjustedWeight := roundFour (factor.adjustedWeight * scale) }
  let score := boundedScore (portfolio values + directComponent (portfolio values) directScore)
  { siteId
    score
    band := riskBand score
    formulaVersion := if scores.any (·.formulaVersion == kevFormulaVersion) then kevFormulaVersion else formulaVersion
    assetCount := scores.length
    findingCount := (scores.map (·.findingCount)).sum + direct.length
    dataAsOf := (scores.filterMap (·.dataAsOf)).max?
    factors := portfolioFactors values ++ scaled }

def calculateSiteRisk (sites : List RiskSite) (assetScores : List AssetRiskScore) (findings : List RiskFinding) : List SiteRiskScore :=
  (((sites.map fun site => orText site.siteId "").filter (· ≠ "")).map (siteRisk lower config assetScores findings)).insertionSort
    fun a b => a.siteId ≤ b.siteId

/-- The weights of the direct findings before their scaling, and before any rounding. -/
def directWeights (findings : List RiskFinding) (siteId : String) : List ℚ :=
  let direct := directFindings findings siteId
  (riskCategories lower config direct).flatMap fun category => (categoryContributions lower config direct category).1.map (·.adjusted)

/-- The adjusted weights of the factors of a site, before they are rounded. -/
def siteWeights (assetScores : List AssetRiskScore) (findings : List RiskFinding) (siteId : String) : List ℚ :=
  let values := siteValues assetScores siteId
  let scale := directScale (portfolio values) (siteDirectScore lower config findings siteId)
  portfolioWeights values ++ (directWeights lower config findings siteId).map (· * scale)

end Formula

section Portfolio

variable {values values' : List Nat}

theorem getD_le_of_forall₂ (rise : List.Forall₂ (· ≤ ·) values values') (place : Nat) : values.getD place 0 ≤ values'.getD place 0 := by
  induction rise generalizing place with
  | nil => exact le_rfl
  | cons head _ ih =>
    cases place with
    | zero => exact head
    | succ place => exact ih place

theorem maximum_mono (rise : List.Forall₂ (· ≤ ·) values values') : maximum values ≤ maximum values' := by
  induction rise with
  | nil => exact le_rfl
  | cons head _ ih => exact max_le_max head ih

theorem percentile_mono (rise : List.Forall₂ (· ≤ ·) values values') (percentile : ℚ) :
    percentileNearestRank values percentile ≤ percentileNearestRank values' percentile := by
  have sorted := forall₂_le_insertionSort rise
  unfold percentileNearestRank
  split_ifs with empty _ empty'
  · exact le_rfl
  · exact Nat.zero_le _
  · subst empty'
    cases rise
    exact absurd rfl empty
  · dsimp only
    rw [sorted.length_eq]
    exact getD_le_of_forall₂ sorted _

theorem sum_mono (rise : List.Forall₂ (· ≤ ·) values values') : values.sum ≤ values'.sum := rise.sum_le_sum

theorem topAverage_mono (rise : List.Forall₂ (· ≤ ·) values values') : topAverage values ≤ topAverage values' := by
  have top : List.Forall₂ (· ≤ ·) ((values.insertionSort (· ≥ ·)).take 10) ((values'.insertionSort (· ≥ ·)).take 10) :=
    List.forall₂_take 10 (forall₂_le_sort_descending rise)
  unfold topAverage
  dsimp only
  split_ifs with empty _ empty'
  · exact le_rfl
  · positivity
  · rw [empty'] at top
    exact absurd (List.forall₂_nil_right_iff.mp top) empty
  · rw [top.length_eq]
    have sums : ((((values.insertionSort (· ≥ ·)).take 10).sum : Nat) : ℚ) ≤ (((values'.insertionSort (· ≥ ·)).take 10).sum : Nat) :=
      Nat.cast_le.mpr (sum_mono top)
    exact div_le_div_of_nonneg_right sums (Nat.cast_nonneg _)

theorem portfolio_eq (values : List Nat) :
    portfolio values = maximum values * (1 / 2) + percentileNearestRank values (3 / 4) * (3 / 10) + topAverage values * (1 / 5) := by
  simp only [portfolio, portfolioWeights, siteMaxWeight, siteUpperQuartileWeight, siteTopAverageWeight, List.sum_cons, List.sum_nil]
  ring

theorem portfolio_mono (rise : List.Forall₂ (· ≤ ·) values values') : portfolio values ≤ portfolio values' := by
  have first : (maximum values : ℚ) ≤ maximum values' := Nat.cast_le.mpr (maximum_mono rise)
  have second : (percentileNearestRank values (3 / 4) : ℚ) ≤ percentileNearestRank values' (3 / 4) :=
    Nat.cast_le.mpr (percentile_mono rise (3 / 4))
  have third := topAverage_mono rise
  rw [portfolio_eq, portfolio_eq]
  linarith

theorem maximum_le (bounded : ∀ value ∈ values, value ≤ 100) : maximum values ≤ 100 := by
  induction values with
  | nil => exact Nat.zero_le _
  | cons value rest ih =>
    exact max_le (bounded value List.mem_cons_self) (ih fun other member => bounded other (List.mem_cons_of_mem _ member))

theorem percentile_le (bounded : ∀ value ∈ values, value ≤ 100) (percentile : ℚ) : percentileNearestRank values percentile ≤ 100 := by
  unfold percentileNearestRank
  split_ifs
  · exact Nat.zero_le _
  · dsimp only
    rw [List.getD_eq_getElem?_getD]
    cases found : (values.insertionSort (· ≤ ·))[max 1 ⌈percentile * (values.insertionSort (· ≤ ·)).length⌉₊ - 1]? with
    | none => exact Nat.zero_le _
    | some value => exact bounded value ((List.mem_insertionSort _).mp (List.mem_of_getElem? found))

theorem topAverage_le (bounded : ∀ value ∈ values, value ≤ 100) : topAverage values ≤ 100 := by
  unfold topAverage
  dsimp only
  split_ifs with empty
  · norm_num
  · have positive : (0 : ℚ) < ((values.insertionSort (· ≥ ·)).take 10).length := by
      exact_mod_cast List.length_pos_iff.mpr empty
    have total : ((values.insertionSort (· ≥ ·)).take 10).sum ≤ ((values.insertionSort (· ≥ ·)).take 10).length • 100 := by
      apply List.sum_le_card_nsmul
      intro value member
      exact bounded value ((List.mem_insertionSort _).mp (List.mem_of_mem_take member))
    rw [div_le_iff₀ positive]
    have cast : ((((values.insertionSort (· ≥ ·)).take 10).sum : Nat) : ℚ) ≤ (((values.insertionSort (· ≥ ·)).take 10).length • 100 : Nat) :=
      Nat.cast_le.mpr total
    rw [smul_eq_mul, Nat.cast_mul, mul_comm] at cast
    exact cast

theorem portfolio_le (bounded : ∀ value ∈ values, value ≤ 100) : portfolio values ≤ 100 := by
  have first : (maximum values : ℚ) ≤ 100 := by exact_mod_cast maximum_le bounded
  have second : (percentileNearestRank values (3 / 4) : ℚ) ≤ 100 := by exact_mod_cast percentile_le bounded (3 / 4)
  have third := topAverage_le bounded
  rw [portfolio_eq]
  linarith

end Portfolio

/-- Two lists of scores are of the same sites, whose scores the relation holds of. -/
def SiteScoresRelated (R : Nat → Nat → Prop) (before after : List SiteRiskScore) : Prop :=
  List.Forall₂ (fun score score' => score.siteId = score'.siteId ∧ R score.score score'.score) before after

/-- The same asset with a score that is no less. -/
def AssetRaised (score score' : AssetRiskScore) : Prop :=
  score'.siteId = score.siteId ∧ score'.assetId = score.assetId ∧ score.score ≤ score'.score ∧ score'.score ≤ 100

/-- What the site score is for. -/
structure SiteRiskSound (lower : String → String) (config : RiskConfig) (sites : List RiskSite) (assetScores : List AssetRiskScore)
    (findings : List RiskFinding) : Prop where
  bounded : ∀ score ∈ calculateSiteRisk lower config sites assetScores findings, score.score ≤ 100
  raised : ∀ raisedScores, List.Forall₂ AssetRaised assetScores raisedScores →
    SiteScoresRelated (· ≤ ·) (calculateSiteRisk lower config sites assetScores findings)
      (calculateSiteRisk lower config sites raisedScores findings)
  added : ∀ front finding rest, findings = front ++ rest →
    SiteScoresRelated (· ≤ ·) (calculateSiteRisk lower config sites assetScores findings)
      (calculateSiteRisk lower config sites assetScores (front ++ finding :: rest))
  portfolio : ∀ score ∈ calculateSiteRisk lower config sites assetScores findings,
    portfolio (siteValues assetScores score.siteId) ≤ siteCombined lower config assetScores findings score.siteId ∧
      boundedScore (portfolio (siteValues assetScores score.siteId)) ≤ score.score
  breakdown : ∀ score ∈ calculateSiteRisk lower config sites assetScores findings,
    (siteWeights lower config assetScores findings score.siteId).sum = siteCombined lower config assetScores findings score.siteId

/-- The direct findings of a site fill no more than the scale, or its portfolio fills all of it. -/
def DirectFits (lower : String → String) (config : RiskConfig) (assetScores : List AssetRiskScore) (findings : List RiskFinding)
    (siteId : String) : Prop :=
  (directWeights lower config findings siteId).sum ≤ 100 ∨ portfolio (siteValues assetScores siteId) = 100

section Sites

variable {lower : String → String} {config : RiskConfig} {sites : List RiskSite} {assetScores raisedScores : List AssetRiskScore}
  {findings findings' : List RiskFinding} {siteId : String}

theorem siteAssetScores_eq (assetScores : List AssetRiskScore) (siteId : String) :
    siteAssetScores assetScores siteId = assetScores.filter (·.siteId = siteId) := by
  rw [siteAssetScores, Dict.get?_foldl_append]
  show (if assetScores.filter (·.siteId = siteId) = [] then none else some ([] ++ assetScores.filter (·.siteId = siteId))).getD [] = _
  split_ifs with empty
  · exact empty.symm
  · rfl

theorem directFindings_eq (findings : List RiskFinding) (siteId : String) :
    directFindings findings siteId = (findings.filter isDirect).filter (orText ·.siteId "" = siteId) := by
  rw [directFindings, Dict.get?_foldl_append (fun finding : RiskFinding => orText finding.siteId "")]
  show (if (findings.filter isDirect).filter (orText ·.siteId "" = siteId) = [] then none
    else some ([] ++ (findings.filter isDirect).filter (orText ·.siteId "" = siteId))).getD [] = _
  split_ifs with empty
  · exact empty.symm
  · rfl

theorem mem_calculateSiteRisk {score : SiteRiskScore} :
    score ∈ calculateSiteRisk lower config sites assetScores findings ↔
      ∃ site ∈ sites, orText site.siteId "" ≠ "" ∧ siteRisk lower config assetScores findings (orText site.siteId "") = score := by
  rw [calculateSiteRisk, List.mem_insertionSort, List.mem_map]
  constructor
  · rintro ⟨siteId, listed, rfl⟩
    obtain ⟨member, named⟩ := List.mem_filter.mp listed
    obtain ⟨site, present, rfl⟩ := List.mem_map.mp member
    exact ⟨site, present, of_decide_eq_true named, rfl⟩
  · rintro ⟨site, present, named, rfl⟩
    exact ⟨_, List.mem_filter.mpr ⟨List.mem_map.mpr ⟨site, present, rfl⟩, decide_eq_true named⟩, rfl⟩

theorem site_scores_related {R : Nat → Nat → Prop}
    (related : ∀ siteId, R (siteRisk lower config assetScores findings siteId).score
      (siteRisk lower config raisedScores findings' siteId).score) :
    SiteScoresRelated R (calculateSiteRisk lower config sites assetScores findings)
      (calculateSiteRisk lower config sites raisedScores findings') := by
  apply forall₂_insertionSort
  · intro score other score' other' same same'
    rw [same.1, same'.1]
  · apply List.forall₂_map_left_iff.mpr
    apply List.forall₂_map_right_iff.mpr
    exact List.forall₂_same.mpr fun siteId _ => ⟨rfl, related siteId⟩

theorem categories_nonneg (findings : List RiskFinding) (category : String) :
    0 ≤ (categoryContributions lower config findings category).2 := by
  rw [category_total]
  exact le_min (config.cap_nonneg category)
    (List.sum_nonneg (placed_nonneg diminishing_nonneg (sortedRaws_nonneg findings category) 0))

theorem direct_score (findings : List RiskFinding) (siteId : String) :
    siteDirectScore lower config findings siteId = min (directWeights lower config findings siteId).sum 100 := by
  have sums (categories : List String) :
      (categories.flatMap fun category =>
        (categoryContributions lower config (directFindings findings siteId) category).1.map (·.adjusted)).sum =
        (categories.map fun category => (categoryContributions lower config (directFindings findings siteId) category).2).sum := by
    induction categories with
    | nil => rfl
    | cons category rest ih =>
      rw [List.flatMap_cons, List.sum_append, ih, List.map_cons, List.sum_cons, category_adjusted, category_total]
  rw [directWeights, sums]
  rfl

theorem directWeights_nonneg (findings : List RiskFinding) (siteId : String) : 0 ≤ (directWeights lower config findings siteId).sum := by
  have sums (categories : List String) :
      0 ≤ (categories.flatMap fun category =>
        (categoryContributions lower config (directFindings findings siteId) category).1.map (·.adjusted)).sum := by
    induction categories with
    | nil => exact le_rfl
    | cons category rest ih =>
      rw [List.flatMap_cons, List.sum_append, category_adjusted, ← category_total]
      exact add_nonneg (categories_nonneg _ _) ih
  exact sums _

theorem direct_score_bounds (findings : List RiskFinding) (siteId : String) :
    0 ≤ siteDirectScore lower config findings siteId ∧ siteDirectScore lower config findings siteId ≤ 100 := by
  rw [direct_score]
  exact ⟨le_min (directWeights_nonneg findings siteId) (by norm_num), min_le_right _ _⟩

theorem combined_mono {before after direct direct' : ℚ} (portfolio : before ≤ after) (full : after ≤ 100)
    (more : direct ≤ direct') (most : direct' ≤ 100) :
    before + directComponent before direct ≤ after + directComponent after direct' := by
  have first : before + directComponent before direct ≤ after + directComponent after direct := by
    have kept : 0 ≤ (after - before) * (1 - direct / 100 * (7 / 20)) := mul_nonneg (by linarith) (by linarith)
    simp only [directComponent, siteDirectFindingsWeight]
    linarith
  have second : directComponent after direct ≤ directComponent after direct' := by
    have risen : 0 ≤ (100 - after) * ((direct' - direct) / 100) * (7 / 20) :=
      mul_nonneg (mul_nonneg (by linarith) (by linarith)) (by norm_num)
    simp only [directComponent, siteDirectFindingsWeight]
    linarith
  linarith

theorem siteValues_le (bounded : ∀ score ∈ assetScores, score.score ≤ 100) : ∀ value ∈ siteValues assetScores siteId, value ≤ 100 := by
  intro value member
  obtain ⟨score, listed, rfl⟩ := List.mem_map.mp member
  rw [siteAssetScores_eq] at listed
  exact bounded score (List.mem_filter.mp listed).1

theorem siteValues_raised (rise : List.Forall₂ AssetRaised assetScores raisedScores) (siteId : String) :
    List.Forall₂ (· ≤ ·) (siteValues assetScores siteId) (siteValues raisedScores siteId) := by
  have filtered := List.rel_filter (p := fun score : AssetRiskScore => decide (score.siteId = siteId))
    (q := fun score : AssetRiskScore => decide (score.siteId = siteId)) (fun score score' one => by simp only [one.1]) rise
  rw [siteValues, siteValues, siteAssetScores_eq, siteAssetScores_eq]
  apply List.forall₂_map_left_iff.mpr
  apply List.forall₂_map_right_iff.mpr
  exact filtered.imp fun _ _ one => one.2.2.1

theorem combined_raised (rise : List.Forall₂ AssetRaised assetScores raisedScores) (findings : List RiskFinding) (siteId : String) :
    siteCombined lower config assetScores findings siteId ≤ siteCombined lower config raisedScores findings siteId := by
  have raisedBounded : ∀ score ∈ raisedScores, score.score ≤ 100 := by
    intro score member
    obtain ⟨place, here, rfl⟩ := List.getElem_of_mem member
    exact (List.forall₂_iff_get.mp rise).2 place (by rw [rise.length_eq]; exact here) here |>.2.2.2
  exact combined_mono (portfolio_mono (siteValues_raised rise siteId)) (portfolio_le (siteValues_le raisedBounded)) le_rfl
    (direct_score_bounds findings siteId).2

theorem combined_added (bounded : ∀ score ∈ assetScores, score.score ≤ 100) (sub : findings.Sublist findings') (siteId : String) :
    siteCombined lower config assetScores findings siteId ≤ siteCombined lower config assetScores findings' siteId := by
  have direct : siteDirectScore lower config findings siteId ≤ siteDirectScore lower config findings' siteId := by
    rw [siteDirectScore, siteDirectScore, directFindings_eq, directFindings_eq]
    exact finding_score_le rfl (levels_rise_of_sublist ((sub.filter _).filter _))
  exact combined_mono le_rfl (portfolio_le (siteValues_le bounded)) direct
    (direct_score_bounds findings' siteId).2

theorem combined_portfolio (bounded : ∀ score ∈ assetScores, score.score ≤ 100) (findings : List RiskFinding) (siteId : String) :
    portfolio (siteValues assetScores siteId) ≤ siteCombined lower config assetScores findings siteId := by
  have nonneg : 0 ≤ siteDirectScore lower config findings siteId := (direct_score_bounds findings siteId).1
  have most : siteDirectScore lower config findings siteId ≤ 100 := (direct_score_bounds findings siteId).2
  have within : portfolio (siteValues assetScores siteId) ≤ 100 := portfolio_le (siteValues_le bounded)
  apply le_add_of_nonneg_right
  exact mul_nonneg (mul_nonneg (by linarith) (by linarith)) (by norm_num [siteDirectFindingsWeight])

theorem breakdown_iff (assetScores : List AssetRiskScore) (findings : List RiskFinding) (siteId : String) :
    (siteWeights lower config assetScores findings siteId).sum = siteCombined lower config assetScores findings siteId ↔
      DirectFits lower config assetScores findings siteId := by
  have total : 0 ≤ (directWeights lower config findings siteId).sum := directWeights_nonneg findings siteId
  have score : siteDirectScore lower config findings siteId = min (directWeights lower config findings siteId).sum 100 :=
    direct_score findings siteId
  have sum : (siteWeights lower config assetScores findings siteId).sum = portfolio (siteValues assetScores siteId) +
      (directWeights lower config findings siteId).sum *
        directScale (portfolio (siteValues assetScores siteId)) (siteDirectScore lower config findings siteId) := by
    rw [siteWeights, List.sum_append, List.sum_map_mul_right, List.map_id']
    rfl
  rw [sum, siteCombined, add_right_inj, DirectFits]
  by_cases none : siteDirectScore lower config findings siteId = 0
  · have empty : (directWeights lower config findings siteId).sum = 0 := by
      rcases le_total (directWeights lower config findings siteId).sum 100 with below | above
      · rw [← none, score, min_eq_left below]
      · rw [score, min_eq_right above] at none
        norm_num at none
    rw [none, empty]
    simp [directComponent]
  · have scaled : (directWeights lower config findings siteId).sum *
        directScale (portfolio (siteValues assetScores siteId)) (siteDirectScore lower config findings siteId) =
          (directWeights lower config findings siteId).sum * (100 - portfolio (siteValues assetScores siteId)) * (7 / 2000) := by
      rw [directScale, if_neg none, directComponent, siteDirectFindingsWeight]
      field_simp
      ring
    have part : directComponent (portfolio (siteValues assetScores siteId)) (siteDirectScore lower config findings siteId) =
        siteDirectScore lower config findings siteId * (100 - portfolio (siteValues assetScores siteId)) * (7 / 2000) := by
      rw [directComponent, siteDirectFindingsWeight]
      ring
    rw [scaled, part, mul_left_inj' (by norm_num), mul_eq_mul_right_iff, score]
    constructor
    · intro same
      rcases same with whole | full
      · exact .inl (by rw [whole]; exact min_le_right _ _)
      · exact .inr (by linarith)
    · intro fits
      rcases fits with whole | full
      · exact .inl (min_eq_left whole).symm
      · exact .inr (by linarith)

end Sites

theorem SiteRiskSound.fits {lower : String → String} {config : RiskConfig} {sites : List RiskSite} {assetScores : List AssetRiskScore}
    {findings : List RiskFinding} (sound : SiteRiskSound lower config sites assetScores findings) {site : RiskSite} (member : site ∈ sites)
    (named : orText site.siteId "" ≠ "") : DirectFits lower config assetScores findings (orText site.siteId "") :=
  (breakdown_iff _ _ _).mp (sound.breakdown _ (mem_calculateSiteRisk.mpr ⟨site, member, named, rfl⟩))

def sampleSite : RiskSite := { siteId := some "site" }

/-- A critical finding about the site itself. -/
def sampleDirectFinding (category : String) : RiskFinding :=
  { sampleFinding category 1 with assetId := none, category := some category }

def sampleScores : List AssetRiskScore :=
  calculateAssetRisk id defaultConfig [sampleAsset] sampleRiskFindings

def sampleDirectFindings : List RiskFinding :=
  [sampleDirectFinding "coverage", sampleDirectFinding "identity", sampleDirectFinding "vulnerability"]

end OpenAssetWatch.Finding
