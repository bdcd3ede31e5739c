import OpenAssetWatch.Clock
import OpenAssetWatch.Library.Dict
import OpenAssetWatch.Library.Guard

namespace OpenAssetWatch.Finding

open Library

def rulesetVersion : String := "oaw.findings.v4"
def maxReconcileRecords : Nat := 20000

inductive SubjectType where
  | asset
  | sensor
  | site
deriving DecidableEq, Repr

inductive Severity where
  | critical
  | high
  | medium
  | low
  | informational
deriving DecidableEq, Repr

inductive Freshness where
  | fresh
  | aging
  | stale
  | unknown
deriving DecidableEq, Repr

inductive FindingStatus where
  | active
  | acknowledged
  | suppressed
  | resolved
deriving DecidableEq, Repr

/-- The columns that say what a finding is about. -/
structure Subject where
  ruleId : String
  subjectType : SubjectType
  siteId : String
  assetId : Option String
  sensorId : Option String
deriving DecidableEq, Repr

structure EvidenceReference where
  evidenceRef : String
  evidenceType : String
  source : String
  observedAt : Option Time
  freshness : Freshness
  confidence : ℚ
  summary : String
deriving DecidableEq

/-- What a finding says, as its rule worded it. -/
structure Wording where
  ruleVersion : Nat
  category : String
  title : String
  description : String
  recommendation : String
  severity : Severity
  confidence : ℚ
  evidenceObservedAt : Option Time
  evidenceFreshness : Freshness
deriving DecidableEq

structure FindingCandidate extends Subject, Wording where
  dedupeKey : String
  evidence : List EvidenceReference

structure ResolutionKey where
  ruleId : String
  subjectType : SubjectType
  siteId : String
  subjectId : Option String
deriving DecidableEq, Repr

structure EvaluationSnapshot where
  candidates : List FindingCandidate
  resolutionEligible : List ResolutionKey
  resolutionEligibleDedupeKeys : List String
  evaluatedRuleIds : List String

/-- A row of `findings` under its dedupe key. -/
structure FindingRow extends Subject, Wording where
  previousRuleVersion : Option Nat := none
  ruleVersionChangedAt : Option Time := none
  engineVersion : String
  status : FindingStatus
  firstSeenAt : Time
  lastSeenAt : Time
  evaluatedAt : Time
  resolvedAt : Option Time := none
  resolutionBasis : Option String := none
  acknowledgedAt : Option Time := none
  acknowledgedBy : Option String := none
  suppressedAt : Option Time := none
  suppressedBy : Option String := none
  suppressedUntil : Option Time := none
  suppressionReason : Option String := none
  reopenCount : Nat := 0
  lastEvaluationRunId : String

/-- The finding id is a digest of the dedupe key, so that key stands for both. -/
structure FindingStore where
  findings : Dict String FindingRow := .empty
  evidence : Dict String (List EvidenceReference) := .empty

structure ReconcileCall where
  runId : String
  snapshot : EvaluationSnapshot
  evaluatedAt : Time
  siteId : Option String := none
  assetId : Option String := none
  sensorId : Option String := none

structure ReconcileResult where
  opened : Nat := 0
  updated : Nat := 0
  reopened : Nat := 0
  resolved : Nat := 0
deriving DecidableEq, Repr

inductive ReconcileError where
  | recordLimit
deriving DecidableEq, Repr

def ReconcileError.message : ReconcileError → String
  | .recordLimit => "finding reconciliation record limit exceeded"

/-- The transaction's state: the tables and the counters. -/
structure Reconciliation where
  store : FindingStore
  result : ReconcileResult := {}

section

variable (call : ReconcileCall)

/-- The `WHERE` clause of `_scope_rows`; a null column equals nothing. -/
def inScope (subject : Subject) : Bool :=
  call.siteId.all (· == subject.siteId) && call.assetId.all (some · == subject.assetId) &&
    call.sensorId.all (some · == subject.sensorId)

def insertedRow (candidate : FindingCandidate) : FindingRow :=
  { toSubject := candidate.toSubject
    toWording := candidate.toWording
    engineVersion := rulesetVersion
    status := .active
    firstSeenAt := call.evaluatedAt
    lastSeenAt := call.evaluatedAt
    evaluatedAt := call.evaluatedAt
    lastEvaluationRunId := call.runId }

/-- A resolved finding reopens, and so does a suppressed one whose suppression has run out. -/
def reportedStatus (row : FindingRow) : FindingStatus :=
  if row.status = .resolved then .active
  else if row.status = .suppressed ∧ row.suppressedUntil.any (· ≤ call.evaluatedAt) then .active
  else row.status

def updatedRow (row : FindingRow) (candidate : FindingCandidate) : FindingRow :=
  { row with
    toWording := candidate.toWording
    previousRuleVersion :=
      if row.ruleVersion ≠ candidate.ruleVersion then some row.ruleVersion else row.previousRuleVersion
    ruleVersionChangedAt :=
      if row.ruleVersion ≠ candidate.ruleVersion then some call.evaluatedAt else row.ruleVersionChangedAt
    engineVersion := rulesetVersion
    status := reportedStatus call row
    lastSeenAt := call.evaluatedAt
    evaluatedAt := call.evaluatedAt
    resolvedAt := if row.status = .resolved then none else row.resolvedAt
    resolutionBasis := if row.status = .resolved then none else row.resolutionBasis
    reopenCount := row.reopenCount + if row.status = .resolved then 1 else 0
    lastEvaluationRunId := call.runId }

/-- The upsert; `none` when the stored row is newer. -/
def upsertedRow (previous : Option FindingRow) (candidate : FindingCandidate) : Option FindingRow :=
  match previous with
  | none => some (insertedRow call candidate)
  | some row => if row.evaluatedAt ≤ call.evaluatedAt then some (updatedRow call row candidate) else none

/-- The counter of a write; `previous` is the row as it was selected before the loop. -/
def countWrite (previous : Option FindingRow) (result : ReconcileResult) : ReconcileResult :=
  match previous with
  | none => { result with opened := result.opened + 1 }
  | some row =>
    if row.status = .resolved then { result with reopened := result.reopened + 1 }
    else { result with updated := result.updated + 1 }

def applyCandidate (existing : List (String × FindingRow)) (state : Reconciliation)
    (candidate : FindingCandidate) : Reconciliation :=
  match upsertedRow call (state.store.findings.get? candidate.dedupeKey) candidate with
  | none => state
  | some row =>
    { store :=
        { findings := state.store.findings.set candidate.dedupeKey row
          evidence := state.store.evidence.set candidate.dedupeKey candidate.evidence }
      result := countWrite (existing.lookup candidate.dedupeKey) state.result }

def resolutionKey (subject : Subject) : ResolutionKey :=
  { ruleId := subject.ruleId
    subjectType := subject.subjectType
    siteId := subject.siteId
    subjectId :=
      match subject.subjectType with
      | .asset => subject.assetId
      | .sensor => subject.sensorId
      | .site => some subject.siteId }

def isCandidate (dedupeKey : String) : Bool := (call.snapshot.candidates.map (·.dedupeKey)).contains dedupeKey

def isEligible (dedupeKey : String) (subject : Subject) : Bool :=
  call.snapshot.resolutionEligible.contains (resolutionKey subject) ||
    call.snapshot.resolutionEligibleDedupeKeys.contains dedupeKey

def resolvedRow (row : FindingRow) : FindingRow :=
  { row with
    status := .resolved
    resolvedAt := some call.evaluatedAt
    resolutionBasis := some "fresh deterministic evidence no longer matches the rule"
    evaluatedAt := call.evaluatedAt
    lastEvaluationRunId := call.runId }

/-- One row in scope, as it was selected before the candidates were applied. -/
def resolve (state : Reconciliation) (stale : String × FindingRow) : Reconciliation :=
  let (dedupeKey, previous) := stale
  if isCandidate call dedupeKey || !call.snapshot.evaluatedRuleIds.contains previous.ruleId then
    state
  else if previous.status = .resolved then
    state
  else if !isEligible call dedupeKey previous.toSubject then
    state
  else
    match state.store.findings.get? dedupeKey with
    | none => state
    | some row =>
      if row.evaluatedAt ≤ call.evaluatedAt then
        { store := { state.store with findings := state.store.findings.set dedupeKey (resolvedRow call row) }
          result := { state.result with resolved := state.result.resolved + 1 } }
      else
        state

def scopeRows (store : FindingStore) : List (String × FindingRow) :=
  store.findings.entries.filter fun (_, row) => inScope call row.toSubject

/-- The transaction once it holds its lock and has checked the number of rows. -/
def reconcileRows (store : FindingStore) : Reconciliation :=
  let existing := scopeRows call store
  let applied := call.snapshot.candidates.foldl (applyCandidate call existing) { store }
  existing.foldl (resolve call) applied

def reconcile (store : FindingStore) : Except ReconcileError Reconciliation := do
  require ((scopeRows call store).length ≤ maxReconcileRecords) .recordLimit
  return reconcileRows call store

def isActive (status : FindingStatus) : Bool := status == .active || status == .acknowledged

end

section

/-- The first code points of a text, as a slice takes them. -/
def slice (limit : Nat) (text : String) : String := String.ofList (text.toList.take limit)

def acknowledgedRow (actor : String) (time : Time) (row : FindingRow) : FindingRow :=
  { row with status := .acknowledged, acknowledgedAt := some time, acknowledgedBy := some (slice 120 actor) }

def suppressedRow (actor reason : String) (until? : Option Time) (time : Time) (row : FindingRow) : FindingRow :=
  { row with
    status := .suppressed
    suppressedAt := some time
    suppressedBy := some (slice 120 actor)
    suppressedUntil := until?
    suppressionReason := some (slice 500 reason) }

/-- `UPDATE findings SET … WHERE finding_id = … AND status IN … RETURNING *`. -/
def updateWhere (allowed : FindingStatus → Bool) (change : FindingRow → FindingRow) (dedupeKey : String)
    (store : FindingStore) : FindingStore × Option FindingRow :=
  match store.findings.get? dedupeKey with
  | none => (store, none)
  | some row =>
    if allowed row.status then
      ({ store with findings := store.findings.set dedupeKey (change row) }, some (change row))
    else
      (store, none)

def acknowledge (dedupeKey actor : String) (time : Time) : FindingStore → FindingStore × Option FindingRow :=
  updateWhere isActive (acknowledgedRow actor time) dedupeKey

def suppress (dedupeKey actor reason : String) (until? : Option Time) (time : Time) :
    FindingStore → FindingStore × Option FindingRow :=
  updateWhere (fun status => isActive status || status == .suppressed) (suppressedRow actor reason until? time) dedupeKey

end

end OpenAssetWatch.Finding
