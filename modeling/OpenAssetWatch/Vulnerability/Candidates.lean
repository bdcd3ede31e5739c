import OpenAssetWatch.Library.Dict
import OpenAssetWatch.Vulnerability.Matching

namespace OpenAssetWatch.Vulnerability

open Library

def maxEvaluationComponents : Nat := 100000
def maxEvaluationAdvisoryRows : Nat := 200000
def maxReconciliationAdvisories : Nat := 20000
def maxEvaluationMatches : Nat := 200000
def maxCandidatesPerComponent : Nat := 1000
def maxEvaluationComparisons : Nat := 1000000

def matchPrecedence : MatchStatus → Nat
  | .affected => 80
  | .versionUnknown => 70
  | .identityUncertain => 60
  | .unsupportedComparison => 50
  | .insufficientEvidence => 40
  | .fixed => 30
  | .notAffected => 20
  | .advisoryWithdrawn => 10

abbrev RowIndex := Dict (String × String) (List Affected)

structure CandidateIndex where
  byIdentifier : RowIndex
  byName : RowIndex

/-- List the row under its ecosystem and the given field, unless the field is empty. -/
def indexBy (field : Affected → String) (index : RowIndex) (item : Affected) : RowIndex :=
  if field item = "" then index else index.append (item.ecosystem, field item) item

def identifierOf (item : Affected) : String := item.canonicalIdentifier.getD ""

def indexRow (index : CandidateIndex) (item : Affected) : CandidateIndex :=
  { byIdentifier := indexBy identifierOf index.byIdentifier item
    byName := indexBy (·.normalizedName) index.byName item }

def candidateIndex (advisoryRows : List Affected) : CandidateIndex :=
  advisoryRows.foldl indexRow ⟨.empty, .empty⟩

/-- The rows listed under the component's stored keys, by identifier and then by name. -/
def listedRows (index : CandidateIndex) (component : Component) : List Affected :=
  let identifier := component.canonicalIdentifier.getD ""
  (if identifier = "" then [] else (index.byIdentifier.get? (component.ecosystem, identifier)).getD []) ++
    (index.byName.get? (component.ecosystem, component.normalizedName)).getD []

/-- An affected id is kept once, at its first place. -/
def candidates (index : CandidateIndex) (component : Component) : Dict String Affected :=
  (listedRows index component).foldl (fun found item => found.set item.affectedId item) .empty

def matchRank : VulnerabilityMatch → VulnerabilityMatch → Ordering :=
  compareLex (compareOn (matchPrecedence ·.matchStatus))
    (compareLex (compareOn (·.matchConfidence)) (compareOn (·.affectedId)))

/-- `max` with a key: the first of the greatest. -/
def selectMatch (first : VulnerabilityMatch) (rest : List VulnerabilityMatch) : VulnerabilityMatch :=
  rest.foldl (fun best item => if matchRank item best = .gt then item else best) first

def aggregateAdvisoryMatches (first : VulnerabilityMatch) (rest : List VulnerabilityMatch) :
    VulnerabilityMatch :=
  let items := first :: rest
  let reasons := items.flatMap (·.reasonCodes) ++
    (if rest.isEmpty then [] else ["multiple-affected-records-evaluated"])
  { selectMatch first rest with
    evidenceIds := (items.flatMap (·.evidenceIds)).eraseDups.take 16
    reasonCodes := reasons.eraseDups }

inductive EvaluationError where
  | assetWithoutSite
  | componentAndAsset
  | reconciliationLimit
  | componentLimit
  | componentRowLimit
  | priorReconciliationLimit
  | untargetedReconciliation
  | assetReconciliationWithoutSite
  | priorRowLimit
  | advisoryRowLimit
  | advisoryIdAndIds
  | advisoryFilterLimit
  | advisoryLimit
  | candidateLimit
  | comparisonBudget
  | matchLimit
deriving DecidableEq, Repr

def EvaluationError.message : EvaluationError → String
  | .assetWithoutSite => "asset-scoped vulnerability evaluation requires site_id"
  | .componentAndAsset => "component_id and asset_id scopes are mutually exclusive"
  | .reconciliationLimit => "vulnerability reconciliation advisory limit exceeded"
  | .componentLimit => "vulnerability component evaluation limit exceeded"
  | .priorReconciliationLimit => "prior vulnerability reconciliation limit exceeded"
  | .componentRowLimit => "component matching row limit must be between 1 and 100001"
  | .untargetedReconciliation => "prior match reconciliation requires a targeted scope"
  | .assetReconciliationWithoutSite => "asset-scoped reconciliation requires site_id"
  | .priorRowLimit => "prior advisory reconciliation limit is invalid"
  | .advisoryRowLimit => "advisory matching row limit must be between 1 and 200001"
  | .advisoryIdAndIds => "advisory_id and advisory_ids are mutually exclusive"
  | .advisoryFilterLimit => "advisory ID filter limit exceeded"
  | .advisoryLimit => "advisory evaluation limit exceeded"
  | .candidateLimit => "vulnerability candidates per component limit exceeded"
  | .comparisonBudget => "vulnerability comparison budget exceeded"
  | .matchLimit => "vulnerability match candidate limit exceeded"

/-- What the evaluation loop accumulates. -/
structure Evaluation where
  groupedMatches : Dict MatchId (List VulnerabilityMatch) := .empty
  advisoryIds : List String := []
  advisoryChecksums : Dict String String := .empty
  comparisonCount : Nat := 0

section

variable {V : Type*} [LinearOrder V] (pep440 : List Char → Option V) (startedAt : Time)

def evaluateCandidate (component : Component) (state : Evaluation) (affected : Affected) :
    Except EvaluationError Evaluation :=
  let state := { state with advisoryIds := state.advisoryIds.insert affected.advisoryId }
  match matchComponent pep440 component affected startedAt with
  | none => .ok state
  | some found =>
    let groupedMatches := state.groupedMatches.append found.matchId found
    if maxEvaluationMatches < groupedMatches.size then
      .error .matchLimit
    else
      .ok { state with
        groupedMatches
        advisoryChecksums := state.advisoryChecksums.set found.advisoryId affected.checksum }

def evaluateComponent (index : CandidateIndex) (state : Evaluation) (component : Component) :
    Except EvaluationError Evaluation :=
  let found := candidates index component
  let comparisonCount := state.comparisonCount + found.size
  if maxCandidatesPerComponent < found.size then
    .error .candidateLimit
  else if maxEvaluationComparisons < comparisonCount then
    .error .comparisonBudget
  else
    found.values.foldlM (evaluateCandidate pep440 startedAt component) { state with comparisonCount }

def evaluatePairs (components : List Component) (advisoryRows : List Affected) :
    Except EvaluationError Evaluation :=
  components.foldlM (evaluateComponent pep440 startedAt (candidateIndex advisoryRows)) {}

def matchIdLE (x y : MatchId) : Bool :=
  ((compare x.componentId y.componentId).then (compare x.advisoryId y.advisoryId)).isLE

def aggregateGroup : List VulnerabilityMatch → Option VulnerabilityMatch
  | [] => none
  | first :: rest => some (aggregateAdvisoryMatches first rest)

/-- The aggregated match of every group, in the order of the group keys. -/
def aggregateAll (grouped : Dict MatchId (List VulnerabilityMatch)) : List VulnerabilityMatch :=
  (grouped.entries.insertionSort (fun x y => matchIdLE x.1 y.1)).filterMap fun entry => aggregateGroup entry.2

def affectedCount (found : List VulnerabilityMatch) : Nat := found.countP (·.matchStatus == .affected)

end

end OpenAssetWatch.Vulnerability
