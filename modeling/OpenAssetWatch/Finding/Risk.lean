import OpenAssetWatch.Clock

namespace OpenAssetWatch.Finding

structure RiskFactor where
  factorType : String
  findingId : Option String
  category : String
  label : String
  severity : Option String
  confidence : ℚ
  freshness : String
  baseWeight : ℚ
  adjustedWeight : ℚ
  ordinal : Nat
  evidenceRef : Option String := none
  matchId : Option String := none
deriving DecidableEq

structure AssetRiskScore where
  siteId : String
  assetId : String
  score : Nat
  band : String
  formulaVersion : String
  findingCount : Nat
  dataAsOf : Option Time
  factors : List RiskFactor
deriving DecidableEq

structure SiteRiskScore where
  siteId : String
  score : Nat
  band : String
  formulaVersion : String
  assetCount : Nat
  findingCount : Nat
  dataAsOf : Option Time
  factors : List RiskFactor
deriving DecidableEq

/-- A row of a score table: the score with the columns that the run adds. -/
structure Calculated (α : Type) where
  score : α
  calculatedAt : Time
  evaluationRunId : String
deriving DecidableEq

structure RiskFactorRow where
  siteId : String
  assetId : Option String
  factor : RiskFactor
  evaluationRunId : String
deriving DecidableEq

structure RiskTables where
  factors : List RiskFactorRow := []
  assetScores : List (Calculated AssetRiskScore) := []
  siteScores : List (Calculated SiteRiskScore) := []
deriving DecidableEq

/-- `:site_id IS NULL OR site_id = :site_id`. -/
def siteCovers (scope : Option String) (siteId : String) : Bool := scope.all (· == siteId)

/-- The arguments of `replace_risk`; the scores are of assets and sites in the scope, each once. -/
structure RiskEvaluation where
  runId : String
  assetScores : List AssetRiskScore
  siteScores : List SiteRiskScore
  calculatedAt : Time
  snapshotAt : Time
  siteId : Option String
  assetsInScope : ∀ score ∈ assetScores, siteCovers siteId score.siteId
  sitesInScope : ∀ score ∈ siteScores, siteCovers siteId score.siteId
  assetsDistinct : (assetScores.map fun score => (score.siteId, score.assetId)).Nodup
  sitesDistinct : (siteScores.map (·.siteId)).Nodup

namespace RiskEvaluation

variable (evaluation : RiskEvaluation)

def calculated {α : Type} (score : α) : Calculated α :=
  { score, calculatedAt := evaluation.calculatedAt, evaluationRunId := evaluation.runId }

def factorRows (siteId : String) (assetId : Option String) (factors : List RiskFactor) : List RiskFactorRow :=
  factors.map fun factor => { siteId, assetId, factor, evaluationRunId := evaluation.runId }

/-- The rows that the evaluation inserts. -/
def rows : RiskTables :=
  { factors :=
      evaluation.assetScores.flatMap (fun score => evaluation.factorRows score.siteId (some score.assetId) score.factors) ++
        evaluation.siteScores.flatMap fun score => evaluation.factorRows score.siteId none score.factors
    assetScores := evaluation.assetScores.map evaluation.calculated
    siteScores := evaluation.siteScores.map evaluation.calculated }

end RiskEvaluation

/-- The rows of the sites that the predicate selects. -/
def RiskTables.select (tables : RiskTables) (p : String → Bool) : RiskTables :=
  { factors := tables.factors.filter (p ·.siteId)
    assetScores := tables.assetScores.filter (p ·.score.siteId)
    siteScores := tables.siteScores.filter (p ·.score.siteId) }

def RiskTables.append (first second : RiskTables) : RiskTables :=
  { factors := first.factors ++ second.factors
    assetScores := first.assetScores ++ second.assetScores
    siteScores := first.siteScores ++ second.siteScores }

section

variable (startedAt : String → Time) (evaluation : RiskEvaluation)

/-- `MAX(runs.started_at)` over the site scores in scope; a foreign key makes each run exist. -/
def newestStart (tables : RiskTables) : Option Time :=
  ((tables.select (siteCovers evaluation.siteId)).siteScores.map (startedAt ·.evaluationRunId)).max?

/-- The transaction, once it holds its lock. -/
def replaceRisk (tables : RiskTables) : RiskTables :=
  if (newestStart startedAt evaluation tables).any (evaluation.snapshotAt < ·) then tables
  else (tables.select (!siteCovers evaluation.siteId ·)).append evaluation.rows

end

end OpenAssetWatch.Finding
