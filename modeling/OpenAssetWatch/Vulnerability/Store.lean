import OpenAssetWatch.Vulnerability.Candidates

namespace OpenAssetWatch.Vulnerability

open Library

/-- A row of `vulnerability_matches` under its key; the key carries the match, component and advisory ids. -/
structure MatchRow where
  siteId : String
  assetId : String
  affectedId : String
  matchStatus : MatchStatus
  matchConfidence : ℚ
  matchedIdentifier : Option String
  installedVersion : Option String
  affectedRange : Option String
  fixedVersion : Option String
  firstMatchedAt : Option Time
  lastMatchedAt : Option Time
  evaluatedAt : Time
  resolvedAt : Option Time
  evidenceIds : List String
  reasonCodes : List String
  engineVersion : String
  lastRunId : String
deriving DecidableEq

inductive Snapshot where
  | ofMatch (found : VulnerabilityMatch)
  | ofRow (row : MatchRow)
deriving DecidableEq

structure HistoryEntry where
  matchId : MatchId
  siteId : String
  assetId : String
  previousStatus : Option MatchStatus
  currentStatus : MatchStatus
  previousVersion : Option String
  currentVersion : Option String
  previousAdvisoryChecksum : Option String
  currentAdvisoryChecksum : Option String
  snapshot : Snapshot
  evaluatedAt : Time
  evaluationRunId : String
deriving DecidableEq

structure MatchStore where
  rows : Dict MatchId MatchRow := .empty
  history : List HistoryEntry := []

/-- The arguments of one reconciliation; a run reports each pair once. -/
structure ReconcileCall where
  runId : String
  found : List VulnerabilityMatch
  advisoryChecksums : Dict String String
  scopeAdvisoryIds : List String := []
  scopeSiteId : Option String := none
  scopeAssetId : Option String := none
  scopeComponentId : Option String := none
  evaluatedAt : Time
  distinct : (found.map (·.matchId)).Nodup

/-- The advisories table at the time of the transaction; a foreign key makes every id it is asked for exist. -/
abbrev Advisories := String → AdvisoryState

def isResolved (status : MatchStatus) : Bool :=
  status == .notAffected || status == .fixed || status == .advisoryWithdrawn

def insertedRow (runId : String) (m : VulnerabilityMatch) : MatchRow :=
  { siteId := m.siteId
    assetId := m.assetId
    affectedId := m.affectedId
    matchStatus := m.matchStatus
    matchConfidence := m.matchConfidence
    matchedIdentifier := m.matchedIdentifier
    installedVersion := m.installedVersion
    affectedRange := m.affectedRange
    fixedVersion := m.fixedVersion
    firstMatchedAt := if m.matchStatus = .affected then some m.evaluatedAt else none
    lastMatchedAt := if m.matchStatus = .affected then some m.evaluatedAt else none
    evaluatedAt := m.evaluatedAt
    resolvedAt := if isResolved m.matchStatus then some m.evaluatedAt else none
    evidenceIds := m.evidenceIds
    reasonCodes := m.reasonCodes
    engineVersion := m.engineVersion
    lastRunId := runId }

def updatedRow (runId : String) (row : MatchRow) (m : VulnerabilityMatch) : MatchRow :=
  { row with
    affectedId := m.affectedId
    matchStatus := m.matchStatus
    matchConfidence := m.matchConfidence
    matchedIdentifier := m.matchedIdentifier
    installedVersion := m.installedVersion
    affectedRange := m.affectedRange
    fixedVersion := m.fixedVersion
    firstMatchedAt :=
      if row.firstMatchedAt = none ∧ m.matchStatus = .affected then some m.evaluatedAt else row.firstMatchedAt
    lastMatchedAt := if m.matchStatus = .affected then some m.evaluatedAt else row.lastMatchedAt
    evaluatedAt := m.evaluatedAt
    resolvedAt :=
      if isResolved m.matchStatus then some m.evaluatedAt
      else if m.matchStatus = .affected then none
      else row.resolvedAt
    evidenceIds := m.evidenceIds
    reasonCodes := m.reasonCodes
    engineVersion := m.engineVersion
    lastRunId := runId }

/-- The upsert; `none` when the stored row is newer than the match. -/
def upsertedRow (runId : String) (previous : Option MatchRow) (m : VulnerabilityMatch) : Option MatchRow :=
  match previous with
  | none => some (insertedRow runId m)
  | some row => if row.evaluatedAt ≤ m.evaluatedAt then some (updatedRow runId row m) else none

section

variable (call : ReconcileCall) (advisories : Advisories)

def currentChecksum (advisoryId : String) : String := (call.advisoryChecksums.get? advisoryId).getD ""

def materialChange (previous : Option MatchRow) (m : VulnerabilityMatch) : Bool :=
  match previous with
  | none => true
  | some row =>
    row.matchStatus != m.matchStatus || row.installedVersion != m.installedVersion ||
      (advisories m.advisoryId).checksum != currentChecksum call m.advisoryId

def matchHistory (previous : Option MatchRow) (m : VulnerabilityMatch) : HistoryEntry :=
  { matchId := m.matchId
    siteId := m.siteId
    assetId := m.assetId
    previousStatus := previous.map (·.matchStatus)
    currentStatus := m.matchStatus
    previousVersion := previous.bind (·.installedVersion)
    currentVersion := m.installedVersion
    previousAdvisoryChecksum := previous.map fun _ => (advisories m.advisoryId).checksum
    currentAdvisoryChecksum := some (currentChecksum call m.advisoryId)
    snapshot := .ofMatch m
    evaluatedAt := m.evaluatedAt
    evaluationRunId := call.runId }

/-- The transaction's state: the tables and the number of history entries it has appended. -/
structure Reconciliation where
  store : MatchStore
  changed : Nat := 0

def applyMatch (state : Reconciliation) (m : VulnerabilityMatch) : Reconciliation :=
  let previous := state.store.rows.get? m.matchId
  match upsertedRow call.runId previous m with
  | none => state
  | some row =>
    let rows := state.store.rows.set m.matchId row
    if materialChange call advisories previous m then
      { store := { rows, history := state.store.history ++ [matchHistory call advisories previous m] }
        changed := state.changed + 1 }
    else
      { state with store := { state.store with rows } }

def inScope (key : MatchId) (row : MatchRow) : Bool :=
  call.scopeAdvisoryIds.contains key.advisoryId &&
    call.scopeSiteId.all (· == row.siteId) &&
    call.scopeAssetId.all (· == row.assetId) &&
    call.scopeComponentId.all (· == key.componentId)

def retireStatus (advisory : AdvisoryState) : MatchStatus :=
  if advisory.current then .notAffected else .advisoryWithdrawn

def retireReasons (advisory : AdvisoryState) : List String :=
  if advisory.current then ["advisory-no-longer-applies-after-catalog-activation"]
  else ["advisory-withdrawn-or-superseded"]

def retiredRow (key : MatchId) (row : MatchRow) : MatchRow :=
  { row with
    matchStatus := retireStatus (advisories key.advisoryId)
    resolvedAt := some call.evaluatedAt
    evaluatedAt := call.evaluatedAt
    reasonCodes := retireReasons (advisories key.advisoryId)
    lastRunId := call.runId }

def retireHistory (key : MatchId) (previous : MatchRow) : HistoryEntry :=
  let advisory := advisories key.advisoryId
  { matchId := key
    siteId := previous.siteId
    assetId := previous.assetId
    previousStatus := some previous.matchStatus
    currentStatus := retireStatus advisory
    previousVersion := previous.installedVersion
    currentVersion := previous.installedVersion
    previousAdvisoryChecksum := some advisory.checksum
    currentAdvisoryChecksum := some advisory.checksum
    snapshot := .ofRow { previous with
      matchStatus := retireStatus advisory
      reasonCodes := retireReasons advisory
      evaluatedAt := call.evaluatedAt }
    evaluatedAt := call.evaluatedAt
    evaluationRunId := call.runId }

/-- One stale row, as it was selected before the loop. -/
def retire (state : Reconciliation) (stale : MatchId × MatchRow) : Reconciliation :=
  let (key, previous) := stale
  if (call.found.map (·.matchId)).contains key then
    state
  else if previous.matchStatus = retireStatus (advisories key.advisoryId) then
    state
  else
    match state.store.rows.get? key with
    | none => state
    | some row =>
      if row.evaluatedAt ≤ call.evaluatedAt then
        { store :=
            { rows := state.store.rows.set key (retiredRow call advisories key row)
              history := state.store.history ++ [retireHistory call advisories key previous] }
          changed := state.changed + 1 }
      else
        state

/-- The whole transaction of `reconcile`, once it holds the table's lock. -/
def reconcile (store : MatchStore) : Reconciliation :=
  let upserted := call.found.foldl (applyMatch call advisories) { store }
  let stale := upserted.store.rows.entries.filter fun (key, row) => inScope call key row
  stale.foldl (retire call advisories) upserted

end

end OpenAssetWatch.Vulnerability
