import OpenAssetWatch.Finding.Risk
import OpenAssetWatch.Library.Ranking
import OpenAssetWatch.Library.Rounding
import OpenAssetWatch.Text.Json

namespace OpenAssetWatch.Finding

open Library

def formulaVersion : String := "oaw.risk.v1"
def kevFormulaVersion : String := "oaw.risk.kev.v1"
def kevCategoryCap : ℚ := 20
def kevBaseWeight : ℚ := 12
def kevRansomwareBaseWeight : ℚ := 18

def severityWeights : Dict String ℚ :=
  ⟨[("critical", 40), ("high", 25), ("medium", 14), ("low", 7), ("informational", 3)], by decide⟩

def freshnessFactors : Dict String ℚ :=
  ⟨[("fresh", 1), ("aging", 4 / 5), ("stale", 9 / 20), ("unknown", 7 / 20)], by decide⟩

def categoryCaps : Dict String ℚ :=
  ⟨[("coverage", 30), ("freshness", 20), ("identity", 35), ("inventory", 25), ("movement", 20), ("vulnerability", 50),
    ("other", 20)], by decide⟩

def diminishingFactors : List ℚ := [1, 3 / 5, 7 / 20, 1 / 5]

/-- `str(value or default)`. -/
def orText (value : Option String) (default : String) : String :=
  match value with
  | none => default
  | some text => if text = "" then default else text

/-- `str(value)`. -/
def strText (value : Option String) : String := value.getD "None"

/-- `round(value, 4)`. -/
def roundFour (value : ℚ) : ℚ := roundEven (value * 10000) / 10000

section Configuration

/-- `float` reads no number from a text that is not one, or is not finite. -/
def boundedFloat (float : String → Option ℚ) (environ : String → Option String) (name : String) (default minimum maximum : ℚ) : ℚ :=
  match environ name with
  | none => default
  | some raw =>
    if Text.strip raw = "" then default
    else
      match float raw with
      | none => default
      | some value => max minimum (min value maximum)

structure RiskConfig where
  severityWeights : Dict String ℚ
  categoryCaps : Dict String ℚ
  weightsBounded : ∀ entry ∈ severityWeights.entries, 0 ≤ entry.2 ∧ entry.2 ≤ 60
  capsBounded : ∀ entry ∈ categoryCaps.entries, 0 ≤ entry.2 ∧ entry.2 ≤ 60

variable (float : String → Option ℚ) (environ : String → Option String)

theorem boundedFloat_bounds (name : String) {default : ℚ} (bounds : 0 ≤ default ∧ default ≤ 60) :
    0 ≤ boundedFloat float environ name default 0 60 ∧ boundedFloat float environ name default 0 60 ≤ 60 := by
  unfold boundedFloat
  cases environ name with
  | none => exact bounds
  | some raw =>
    show _ ≤ (if Text.strip raw = "" then default else _) ∧ (if Text.strip raw = "" then default else _) ≤ (60 : ℚ)
    split_ifs
    · exact bounds
    · cases float raw with
      | none => exact bounds
      | some value => exact ⟨le_max_left _ _, max_le (by norm_num) (min_le_right _ _)⟩

theorem bounded_table (named : String → String) {table : Dict String ℚ} (bounds : ∀ entry ∈ table.entries, 0 ≤ entry.2 ∧ entry.2 ≤ 60) :
    ∀ entry ∈ (table.mapValues fun key default => boundedFloat float environ (named key) default 0 60).entries,
      0 ≤ entry.2 ∧ entry.2 ≤ 60 := by
  intro entry member
  obtain ⟨old, listed, rfl⟩ := List.mem_map.mp member
  exact boundedFloat_bounds float environ _ (bounds old listed)

def loadRiskConfig : RiskConfig where
  severityWeights := severityWeights.mapValues fun severity default =>
    boundedFloat float environ ("OPENASSETWATCH_RISK_WEIGHT_" ++ severity.toUpper) default 0 60
  categoryCaps := categoryCaps.mapValues fun category default =>
    boundedFloat float environ ("OPENASSETWATCH_RISK_CAP_" ++ category.toUpper) default 0 60
  weightsBounded := bounded_table float environ _ (by decide)
  capsBounded := bounded_table float environ _ (by decide)

/-- The weight of a severity that no table lists is zero. -/
def RiskConfig.weight (config : RiskConfig) (severity : String) : ℚ := (config.severityWeights.get? severity).getD 0

def RiskConfig.cap (config : RiskConfig) (category : String) : ℚ :=
  (config.categoryCaps.get? category).getD ((config.categoryCaps.get? "other").getD 20)

variable (config : RiskConfig)

theorem RiskConfig.weight_nonneg (severity : String) : 0 ≤ config.weight severity := by
  unfold RiskConfig.weight
  cases found : config.severityWeights.get? severity with
  | none => exact le_rfl
  | some weight => exact (config.weightsBounded _ ((config.severityWeights.get?_eq_some severity weight).mp found)).1

theorem RiskConfig.cap_nonneg (category : String) : 0 ≤ config.cap category := by
  have listed {key : String} {cap : ℚ} (found : config.categoryCaps.get? key = some cap) : 0 ≤ cap :=
    (config.capsBounded _ ((config.categoryCaps.get?_eq_some key cap).mp found)).1
  unfold RiskConfig.cap
  cases found : config.categoryCaps.get? category with
  | some cap => exact listed found
  | none =>
    cases other : config.categoryCaps.get? "other" with
    | some cap => exact listed other
    | none => norm_num

end Configuration

structure RiskEvidence where
  evidenceType : Option String
  evidenceRef : Option String
  freshness : Option String
deriving DecidableEq

/-- What the formula reads of a finding; `confidence` is a finite number and `evidence` a list of mappings, or absent. -/
structure RiskFinding where
  findingId : Option String
  siteId : Option String
  assetId : Option String
  status : Option String
  ruleId : Option String
  title : Option String
  severity : Option String
  category : Option String
  confidence : Option ℚ
  evidenceFreshness : Option String
  evidence : Option (List RiskEvidence)
deriving DecidableEq

structure RiskAsset where
  siteId : Option String
  assetId : Option String
  observedAt : Option Time
  lastSeenAt : Option Time
deriving DecidableEq

def riskBand (score : Nat) : String :=
  if score ≥ 80 then "critical"
  else if score ≥ 60 then "high"
  else if score ≥ 35 then "moderate"
  else if score ≥ 15 then "low"
  else "minimal"

/-- `_confidence`. -/
def clampedConfidence (value : Option ℚ) : ℚ := value.elim 0 fun value => max 0 (min value 1)

def diminishing (index : Nat) : ℚ := diminishingFactors.getD (min index (diminishingFactors.length - 1)) 0

section Formula

variable (lower : String → String) (config : RiskConfig)

def freshnessFactor (freshness : Option String) : ℚ := (freshnessFactors.get? (lower (orText freshness "unknown"))).getD (7 / 20)

namespace RiskFinding

variable (finding : RiskFinding)

def severityWeight : ℚ := config.weight (lower (orText finding.severity ""))

def categoryKey : String := lower (orText finding.category "other")

def raw : ℚ := finding.severityWeight lower config * clampedConfidence finding.confidence * freshnessFactor lower finding.evidenceFreshness

end RiskFinding

/-- A turn of a loop over findings: the weight of one finding, and what the running cap leaves of it. -/
structure Contribution where
  finding : RiskFinding
  raw : ℚ
  adjusted : ℚ
  ordinal : Nat
deriving DecidableEq

def Contribution.factor (category : String) (contribution : Contribution) : RiskFactor :=
  let finding := contribution.finding
  { factorType := "finding"
    findingId := finding.findingId.filter (· ≠ "")
    category
    label := String.ofList ((orText finding.title (orText finding.ruleId "Deterministic finding")).toList.take 160)
    severity := finding.severity.filter (· ≠ "")
    confidence := clampedConfidence finding.confidence
    freshness := orText finding.evidenceFreshness "unknown"
    baseWeight := roundFour contribution.raw
    adjustedWeight := roundFour contribution.adjusted
    ordinal := contribution.ordinal }

/-- The loop over the sorted findings of one category, with the total that it leaves. -/
def categoryLoop (cap : ℚ) : Nat → ℚ → List (RiskFinding × ℚ) → List Contribution × ℚ
  | _, categoryTotal, [] => ([], categoryTotal)
  | index, categoryTotal, (finding, raw) :: rest =>
    let remaining := max 0 (cap - categoryTotal)
    let adjusted := min (raw * diminishing index) remaining
    let (contributions, total) := categoryLoop cap (index + 1) (categoryTotal + adjusted) rest
    ({ finding, raw, adjusted, ordinal := index + 1 } :: contributions, total)

def groupedFindings (findings : List RiskFinding) : Dict String (List (RiskFinding × ℚ)) :=
  findings.foldl (fun grouped finding => grouped.append (finding.categoryKey lower) (finding, finding.raw lower config)) .empty

def contributionKey (item : RiskFinding × ℚ) : ℚ ×ₗ String := toLex (-item.2, orText item.1.findingId "")

/-- The contributions of the findings of one category, greatest weights first. -/
def categoryContributions (findings : List RiskFinding) (category : String) : List Contribution × ℚ :=
  let values := ((groupedFindings lower config findings).get? category).getD []
  categoryLoop (config.cap category) 0 0 (values.insertionSort fun a b => contributionKey a ≤ contributionKey b)

def riskCategories (findings : List RiskFinding) : List String :=
  ((groupedFindings lower config findings).entries.map Prod.fst).insertionSort (· ≤ ·)

/-- `_finding_contributions`. -/
def findingContributions (findings : List RiskFinding) : List RiskFactor × ℚ :=
  let categories := riskCategories lower config findings
  (categories.flatMap fun category => (categoryContributions lower config findings category).1.map (·.factor category),
    min (categories.map fun category => (categoryContributions lower config findings category).2).sum 100)

/-- The weight of KEV evidence, when it is such evidence. -/
def kevWeight (evidenceType : Option String) : Option ℚ :=
  match evidenceType with
  | some "kev-prioritization-ransomware" => some kevRansomwareBaseWeight
  | some "kev-prioritization" => some kevBaseWeight
  | _ => none

structure KevCandidate where
  finding : RiskFinding
  evidence : RiskEvidence
  raw : ℚ
deriving DecidableEq

/-- The evidence of the findings that the loop looks at, in its order. -/
def kevItems (finding : RiskFinding) : List (RiskFinding × RiskEvidence) :=
  if finding.ruleId = some "vulnerable-component" then (finding.evidence.getD []).map (finding, ·) else []

def kevKey (finding : RiskFinding) (evidence : RiskEvidence) : String × String :=
  (orText finding.findingId "", orText evidence.evidenceRef "")

/-- The KEV evidence with a reference, each key of it the first time that it is seen. -/
def kevCandidates (seen : List (String × String)) : List (RiskFinding × RiskEvidence) → List KevCandidate
  | [] => []
  | (finding, evidence) :: rest =>
    match kevWeight evidence.evidenceType with
    | none => kevCandidates seen rest
    | some base =>
      let key := kevKey finding evidence
      if key.2 = "" ∨ key ∈ seen then kevCandidates seen rest
      else
        { finding, evidence, raw := base * clampedConfidence finding.confidence * freshnessFactor lower evidence.freshness } ::
          kevCandidates (key :: seen) rest

structure KevContribution where
  candidate : KevCandidate
  adjusted : ℚ
  ordinal : Nat
deriving DecidableEq

def KevContribution.factor (contribution : KevContribution) : RiskFactor :=
  let finding := contribution.candidate.finding
  let evidence := contribution.candidate.evidence
  { factorType := "kev-priority"
    findingId := finding.findingId.filter (· ≠ "")
    category := "vulnerability-priority"
    label :=
      if evidence.evidenceType = some "kev-prioritization-ransomware" then "CISA KEV ransomware-confirmed priority"
      else "CISA KEV known-exploited priority"
    severity := none
    confidence := clampedConfidence finding.confidence
    freshness := orText evidence.freshness "unknown"
    baseWeight := roundFour contribution.candidate.raw
    adjustedWeight := roundFour contribution.adjusted
    ordinal := contribution.ordinal
    evidenceRef := evidence.evidenceRef.filter (· ≠ "")
    matchId := ((finding.evidence.getD []).find? (·.evidenceType = some "vulnerability-match")).map (strText ·.evidenceRef) }

/-- The loop over the sorted candidates, which stops once the cap is reached. -/
def kevLoop : Nat → ℚ → List KevCandidate → List KevContribution × ℚ
  | _, total, [] => ([], total)
  | ordinal, total, candidate :: rest =>
    let remaining := max 0 (kevCategoryCap - total)
    let adjusted := min candidate.raw remaining
    let contribution : KevContribution := { candidate, adjusted, ordinal }
    if total + adjusted ≥ kevCategoryCap then ([contribution], total + adjusted)
    else
      let (contributions, final) := kevLoop (ordinal + 1) (total + adjusted) rest
      (contribution :: contributions, final)

def candidateKey (candidate : KevCandidate) : ℚ ×ₗ String ×ₗ String :=
  toLex (-candidate.raw, toLex (orText candidate.finding.findingId "", orText candidate.evidence.evidenceRef ""))

/-- `_kev_contributions`, its factors before they are written. -/
def kevContributions (findings : List RiskFinding) : List KevContribution × ℚ :=
  kevLoop 1 0 ((kevCandidates lower [] (findings.flatMap kevItems)).insertionSort fun a b => candidateKey a ≤ candidateKey b)

/-- An active finding about an asset. -/
def countsForAsset (finding : RiskFinding) : Bool :=
  orText finding.assetId "" ≠ "" && (strText finding.status = "active" || strText finding.status = "acknowledged")

def byAsset (findings : List RiskFinding) : Dict (String × String) (List RiskFinding) :=
  (findings.filter countsForAsset).foldl
    (fun grouped finding => grouped.append (strText finding.siteId, strText finding.assetId) finding) .empty

def RiskAsset.key (asset : RiskAsset) : String × String := (orText asset.siteId "", orText asset.assetId "")

def assetFindings (findings : List RiskFinding) (key : String × String) : List RiskFinding :=
  ((byAsset findings).get? key).getD []

/-- `max(0, min(int(round(raw_score)), 100))`. -/
def boundedScore (raw : ℚ) : Nat := (max 0 (min (roundEven raw) 100)).toNat

/-- One turn of the loop over the assets. -/
def assetRisk (findings : List RiskFinding) (asset : RiskAsset) : AssetRiskScore :=
  let group := assetFindings findings asset.key
  let (factors, findingScore) := findingContributions lower config group
  let (kev, kevScore) := kevContributions lower group
  let kevFactors := kev.map (·.factor)
  let score := boundedScore (min (findingScore + kevScore) 100)
  { siteId := asset.key.1
    assetId := asset.key.2
    score
    band := riskBand score
    formulaVersion := if kevFactors.isEmpty then formulaVersion else kevFormulaVersion
    findingCount := group.length
    dataAsOf := asset.observedAt.or asset.lastSeenAt
    factors := factors ++ kevFactors }

def calculateAssetRisk (assets : List RiskAsset) (findings : List RiskFinding) : List AssetRiskScore :=
  ((assets.filter fun asset => asset.key.1 ≠ "" && asset.key.2 ≠ "").map (assetRisk lower config findings)).insertionSort
    fun a b => toLex (a.siteId, a.assetId) ≤ toLex (b.siteId, b.assetId)

end Formula

end OpenAssetWatch.Finding
