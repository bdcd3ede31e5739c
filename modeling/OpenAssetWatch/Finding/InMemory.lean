import OpenAssetWatch.Finding.Risk
import OpenAssetWatch.Finding.Store

namespace OpenAssetWatch.Finding

open Library

/-- The dictionary of one finding. -/
structure MemoryFinding extends FindingRow where
  evidence : List EvidenceReference

structure InMemoryFindingStore where
  findings : Dict String MemoryFinding := .empty
  assetRisk : Dict (String × String) AssetRiskScore := .empty
  siteRisk : Dict String SiteRiskScore := .empty

/-- A scope that is `None` or empty selects everything. -/
def isGiven (scope : Option String) : Bool := scope.any (· ≠ "")

namespace InMemoryFindingStore

structure Progress where
  store : InMemoryFindingStore
  result : ReconcileResult := {}

section

variable (call : ReconcileCall)

def statusAfter : Option MemoryFinding → FindingStatus
  | none => .active
  | some previous =>
    if previous.status = .resolved then .active
    else if previous.status = .suppressed ∧ previous.suppressedUntil.any (· ≤ call.evaluatedAt) then .active
    else previous.status

def previousRuleVersion (candidate : FindingCandidate) (previous : Option MemoryFinding) : Option Nat :=
  previous.bind fun previous =>
    if previous.ruleVersion ≠ candidate.ruleVersion then some previous.ruleVersion else previous.previousRuleVersion

def ruleVersionChangedAt (candidate : FindingCandidate) (previous : Option MemoryFinding) : Option Time :=
  previous.bind fun previous =>
    if previous.ruleVersion ≠ candidate.ruleVersion then some call.evaluatedAt else previous.ruleVersionChangedAt

def reopenCount : Option MemoryFinding → Nat
  | none => 0
  | some previous => if previous.status = .resolved then previous.reopenCount + 1 else previous.reopenCount

/-- The dictionary that a candidate writes; the administrative fields are those of the previous one. -/
def writtenFinding (previous : Option MemoryFinding) (candidate : FindingCandidate) : MemoryFinding :=
  { toSubject := candidate.toSubject
    toWording := candidate.toWording
    previousRuleVersion := previousRuleVersion candidate previous
    ruleVersionChangedAt := ruleVersionChangedAt call candidate previous
    engineVersion := rulesetVersion
    status := statusAfter call previous
    firstSeenAt := previous.elim call.evaluatedAt (·.firstSeenAt)
    lastSeenAt := call.evaluatedAt
    evaluatedAt := call.evaluatedAt
    resolvedAt := none
    resolutionBasis := none
    acknowledgedAt := previous.bind (·.acknowledgedAt)
    acknowledgedBy := previous.bind (·.acknowledgedBy)
    suppressedAt := previous.bind (·.suppressedAt)
    suppressedBy := previous.bind (·.suppressedBy)
    suppressedUntil := previous.bind (·.suppressedUntil)
    suppressionReason := previous.bind (·.suppressionReason)
    reopenCount := reopenCount previous
    lastEvaluationRunId := call.runId
    evidence := candidate.evidence }

def countFinding (previous : Option MemoryFinding) (result : ReconcileResult) : ReconcileResult :=
  match previous with
  | none => { result with opened := result.opened + 1 }
  | some previous =>
    if previous.status = .resolved then { result with reopened := result.reopened + 1 }
    else { result with updated := result.updated + 1 }

def applyCandidate (progress : Progress) (candidate : FindingCandidate) : Progress :=
  let previous := progress.store.findings.get? candidate.dedupeKey
  if previous.any (call.evaluatedAt < ·.evaluatedAt) then
    progress
  else
    { store :=
        { progress.store with
          findings := progress.store.findings.set candidate.dedupeKey (writtenFinding call previous candidate) }
      result := countFinding previous progress.result }

def inScope (finding : MemoryFinding) : Bool :=
  !(isGiven call.siteId && some finding.siteId != call.siteId) &&
    !(isGiven call.assetId && finding.assetId != call.assetId) &&
    !(isGiven call.sensorId && finding.sensorId != call.sensorId)

def resolvedFinding (finding : MemoryFinding) : MemoryFinding :=
  { finding with
    status := .resolved
    resolvedAt := some call.evaluatedAt
    evaluatedAt := call.evaluatedAt
    resolutionBasis := some "fresh deterministic evidence no longer matches the rule"
    lastEvaluationRunId := call.runId }

/-- One item of the loop over the findings, each of which changes its own dictionary only. -/
def resolve (progress : Progress) (item : String × MemoryFinding) : Progress :=
  let (dedupeKey, finding) := item
  if isCandidate call dedupeKey || !call.snapshot.evaluatedRuleIds.contains finding.ruleId ||
      finding.status == .resolved then
    progress
  else if call.evaluatedAt < finding.evaluatedAt then
    progress
  else if !inScope call finding then
    progress
  else if !isEligible call dedupeKey finding.toSubject then
    progress
  else
    { store :=
        { progress.store with findings := progress.store.findings.set dedupeKey (resolvedFinding call finding) }
      result := { progress.result with resolved := progress.result.resolved + 1 } }

def reconcile (store : InMemoryFindingStore) : Progress :=
  let applied := call.snapshot.candidates.foldl (applyCandidate call) { store }
  applied.store.findings.entries.foldl (resolve call) applied

end

/-- `finding.update(…)` of the finding with the id, unless its status excludes it. -/
def updateFinding (allowed : FindingStatus → Bool) (change : MemoryFinding → MemoryFinding) (dedupeKey : String)
    (store : InMemoryFindingStore) : InMemoryFindingStore × Option MemoryFinding :=
  match store.findings.get? dedupeKey with
  | none => (store, none)
  | some finding =>
    if allowed finding.status then
      ({ store with findings := store.findings.set dedupeKey (change finding) }, some (change finding))
    else
      (store, none)

def acknowledge (dedupeKey actor : String) (time : Time) : InMemoryFindingStore → InMemoryFindingStore × Option MemoryFinding :=
  updateFinding isActive
    (fun finding =>
      { finding with
        status := .acknowledged
        acknowledgedAt := some time
        acknowledgedBy := some (slice 120 actor) })
    dedupeKey

def suppress (dedupeKey actor reason : String) (until? : Option Time) (time : Time) :
    InMemoryFindingStore → InMemoryFindingStore × Option MemoryFinding :=
  updateFinding (fun status => isActive status || status == .suppressed)
    (fun finding =>
      { finding with
        status := .suppressed
        suppressedAt := some time
        suppressedBy := some (slice 120 actor)
        suppressedUntil := until?
        suppressionReason := some (slice 500 reason) })
    dedupeKey

def replaceRisk (evaluation : RiskEvaluation) (store : InMemoryFindingStore) : InMemoryFindingStore :=
  let assetRisk :=
    if isGiven evaluation.siteId then store.assetRisk.filter fun key => some key.1 ≠ evaluation.siteId else .empty
  let siteRisk := if isGiven evaluation.siteId then store.siteRisk.filter (some · ≠ evaluation.siteId) else .empty
  { store with
    assetRisk :=
      evaluation.assetScores.foldl (fun risk score => risk.set (score.siteId, score.assetId) score) assetRisk
    siteRisk := evaluation.siteScores.foldl (fun risk score => risk.set score.siteId score) siteRisk }

end InMemoryFindingStore

inductive FindingAction where
  | reconcile (call : ReconcileCall)
  | acknowledge (dedupeKey actor : String) (time : Time)
  | suppress (dedupeKey actor reason : String) (until? : Option Time) (time : Time)
  | replaceRisk (evaluation : RiskEvaluation)

inductive FindingReply where
  | reconciled (result : ReconcileResult)
  | refused (error : ReconcileError)
  | finding (row : Option FindingRow)
  | replaced

structure SqlFindingStore where
  findings : FindingStore := {}
  risk : RiskTables := {}

/-- One call; a reconciliation that is refused rolls back. -/
def SqlFindingStore.act (startedAt : String → Time) (store : SqlFindingStore) : FindingAction → SqlFindingStore × FindingReply
  | .reconcile call =>
    match Finding.reconcile call store.findings with
    | .error error => (store, .refused error)
    | .ok done => ({ store with findings := done.store }, .reconciled done.result)
  | .acknowledge dedupeKey actor time =>
    let (findings, row) := Finding.acknowledge dedupeKey actor time store.findings
    ({ store with findings }, .finding row)
  | .suppress dedupeKey actor reason until? time =>
    let (findings, row) := Finding.suppress dedupeKey actor reason until? time store.findings
    ({ store with findings }, .finding row)
  | .replaceRisk evaluation =>
    ({ store with risk := Finding.replaceRisk startedAt evaluation store.risk }, .replaced)

def InMemoryFindingStore.act (store : InMemoryFindingStore) : FindingAction → InMemoryFindingStore × FindingReply
  | .reconcile call =>
    let done := InMemoryFindingStore.reconcile call store
    (done.store, .reconciled done.result)
  | .acknowledge dedupeKey actor time =>
    let (store, finding) := InMemoryFindingStore.acknowledge dedupeKey actor time store
    (store, .finding (finding.map (·.toFindingRow)))
  | .suppress dedupeKey actor reason until? time =>
    let (store, finding) := InMemoryFindingStore.suppress dedupeKey actor reason until? time store
    (store, .finding (finding.map (·.toFindingRow)))
  | .replaceRisk evaluation => (InMemoryFindingStore.replaceRisk evaluation store, .replaced)

end OpenAssetWatch.Finding
