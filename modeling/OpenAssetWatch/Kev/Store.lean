import OpenAssetWatch.Clock
import OpenAssetWatch.Library.Dict
import OpenAssetWatch.Library.Rounding
import OpenAssetWatch.Vulnerability.Matching

namespace OpenAssetWatch.Kev

open Library Vulnerability

def isLeapYear (year : Nat) : Bool := year % 4 = 0 && (year % 100 ≠ 0 || year % 400 = 0)

def daysInMonth (year month : Nat) : Nat :=
  match month with
  | 2 => if isLeapYear year then 29 else 28
  | 4 | 6 | 9 | 11 => 30
  | _ => 31

/-- A `datetime.date`. -/
structure Date where
  year : Nat
  month : Nat
  day : Nat
  year_range : 1 ≤ year ∧ year ≤ 9999
  month_range : 1 ≤ month ∧ month ≤ 12
  day_range : 1 ≤ day ∧ day ≤ daysInMonth year month
deriving DecidableEq, Repr

/-- `date.toordinal`: the days from the day before the first of the year 1. -/
def Date.ordinal (date : Date) : Nat :=
  let past := date.year - 1
  past * 365 + past / 4 - past / 100 + past / 400 +
    ((List.range (date.month - 1)).map fun month => daysInMonth date.year (month + 1)).sum + date.day

/-- A `datetime` of the time zone UTC. -/
structure UtcDateTime where
  date : Date
  hour : Nat
  minute : Nat
  second : Nat
  microsecond : Nat
  range : hour < 24 ∧ minute < 60 ∧ second < 60 ∧ microsecond < 1000000
deriving DecidableEq, Repr

def UtcDateTime.toTime (moment : UtcDateTime) : Time :=
  (((moment.date.ordinal : Int) - 719163) * 86400 + moment.hour * 3600 + moment.minute * 60 + moment.second) * 1000000 +
    moment.microsecond

inductive RansomwareCampaignStatus where
  | known
  | unknown
  | notSupplied
deriving DecidableEq, Repr

structure KevRecord where
  kevRecordId : String
  cveId : String
  vendorProject : String
  product : String
  vulnerabilityName : String
  dateAdded : Date
  shortDescription : String
  requiredAction : String
  cisaDueDate : Date
  ransomwareCampaignStatus : RansomwareCampaignStatus
  notes : Option String
  cwes : List String
deriving DecidableEq, Repr

def maxKevRecords : Nat := 10000

/-- A normalized catalog: its CVEs are in order, and no CVE and no record id is there twice. -/
structure KevCatalog where
  sourceProvenance : String
  catalogVersion : String
  catalogDateReleased : UtcDateTime
  records : List KevRecord
  bounded : records.length ≤ maxKevRecords
  ordered : (records.map (·.cveId)).Pairwise (· < ·)
  distinct : (records.map (·.kevRecordId)).Nodup
deriving DecidableEq, Repr

/-- `KevCatalog` for records that pass its checks. -/
def KevCatalog.construct (sourceProvenance catalogVersion : String) (catalogDateReleased : UtcDateTime)
    (records : List KevRecord) : Option KevCatalog :=
  if bounded : records.length ≤ maxKevRecords then
    if ordered : (records.map (·.cveId)).Pairwise (· < ·) then
      if distinct : (records.map (·.kevRecordId)).Nodup then
        some ⟨sourceProvenance, catalogVersion, catalogDateReleased, records, bounded, ordered, distinct⟩
      else none
    else none
  else none

namespace KevCatalog

variable (catalog : KevCatalog)

theorem nodup_cves : (catalog.records.map (·.cveId)).Nodup :=
  catalog.ordered.imp fun less => ne_of_lt less

def record? (cveId : String) : Option KevRecord := catalog.records.find? (·.cveId = cveId)

theorem record?_eq_some {cveId : String} {record : KevRecord} :
    catalog.record? cveId = some record ↔ record ∈ catalog.records ∧ record.cveId = cveId := by
  constructor
  · intro found
    exact ⟨List.mem_of_find?_eq_some found, of_decide_eq_true (List.find?_some found :)⟩
  · rintro ⟨member, rfl⟩
    cases found : catalog.record? record.cveId with
    | none => exact absurd rfl (of_decide_eq_false (Bool.not_eq_true _ ▸ List.find?_eq_none.mp found record member :))
    | some other =>
      have same : other.cveId = record.cveId := of_decide_eq_true (List.find?_some found :)
      rw [List.inj_on_of_nodup_map catalog.nodup_cves (List.mem_of_find?_eq_some found) member same]

end KevCatalog

def cisaKevSourceId : String := "cisa-kev-official"

def maxKevCorrelations : Nat := 200000

def maxKevFactors : Nat := 200000

def maxReevaluatedSites : Nat := 10000

def day : Time := 86400000000

def kevFreshAge : Time := 8 * day

def kevAgingAge : Time := 14 * day

inductive CatalogFreshness where
  | fresh
  | aging
  | stale
deriving DecidableEq, Repr

inductive PriorityStatus where
  | knownExploited
  | knownExploitedRansomware
deriving DecidableEq, Repr

def catalogFreshness (releasedAt : UtcDateTime) (now : Time) : CatalogFreshness :=
  let age := max (now - releasedAt.toTime) 0
  if age ≤ kevFreshAge then .fresh else if age ≤ kevAgingAge then .aging else .stale

def freshnessFactor : CatalogFreshness → ℚ
  | .fresh => 1
  | .aging => 4 / 5
  | .stale => 9 / 20

def priorityStatus (campaign : RansomwareCampaignStatus) : PriorityStatus :=
  if campaign = .known then .knownExploitedRansomware else .knownExploited

def baseWeight : PriorityStatus → ℚ
  | .knownExploitedRansomware => 18
  | .knownExploited => 12

def adjustedWeight (status : PriorityStatus) (freshness : CatalogFreshness) : ℚ :=
  roundEven (baseWeight status * freshnessFactor freshness * 10000) / 10000

/-- A row of `kev_catalog_imports`. -/
structure ImportRow where
  sourceId : String
  catalogVersion : String
  sourceProvenance : String
  catalogDateReleased : UtcDateTime
  payloadSha256 : String
  active : Bool
deriving DecidableEq, Repr

/-- A row of `kev_records`. -/
structure RecordRow where
  record : KevRecord
  recordDigest : String
  active : Bool
deriving DecidableEq, Repr

/-- A row of `advisory_kev_correlations`. -/
structure CorrelationRow where
  kevRecordId : String
  current : Bool
deriving DecidableEq, Repr

/-- What the join reads of a row of `vulnerability_matches`. -/
structure MatchRow where
  advisoryId : String
  siteId : String
  matchStatus : MatchStatus
deriving DecidableEq, Repr

/-- A row of `vulnerability_priority_factors`. -/
structure FactorRow where
  advisoryId : String
  kevRecordId : String
  priorityStatus : PriorityStatus
  sourceFreshness : CatalogFreshness
  baseWeight : ℚ
  adjustedWeight : ℚ
  current : Bool
deriving DecidableEq, Repr

/-- The tables of the priority factors, by their unique keys: a record has its import and its CVE, a correlation its import,
its advisory and its CVE, a factor its import, its match and its CVE. -/
structure KevTables where
  imports : Dict String ImportRow
  records : Dict (String × String) RecordRow
  advisoryCurrent : Dict String Bool
  advisoryAliases : List (String × String)
  correlations : Dict (String × String × String) CorrelationRow
  vulnerabilityMatches : Dict String MatchRow
  factors : Dict (String × String × String) FactorRow
deriving DecidableEq

inductive KevError where
  | catalogExists
  | importIdTaken
  | correlationLimit
  | factorLimit
  | siteLimit
  | rebuildSiteLimit
  | dataUnavailable
  | invalidCatalog
deriving DecidableEq, Repr

/-- The text of a `ValueError`; the others are raised by the database or by the model of the catalog. -/
def KevError.text : KevError → Option String
  | .catalogExists => some "KEV catalog already exists"
  | .correlationLimit => some "KEV exact-alias correlation limit exceeded"
  | .factorLimit => some "KEV priority-factor limit exceeded"
  | .siteLimit => some "KEV targeted site reevaluation limit exceeded"
  | .rebuildSiteLimit => some "KEV full rebuild site limit exceeded"
  | .dataUnavailable => some "KEV data unavailable"
  | .importIdTaken | .invalidCatalog => none

structure KevImportResult where
  importId : String
  catalogVersion : String
  recordCount : Nat
  correlationCount : Nat
  priorityFactorCount : Nat
  changedCves : List String
  changedCveCount : Nat
  changedCvesTruncated : Bool
  affectedSiteIds : List String
  sourceFreshness : CatalogFreshness
  reactivated : Bool
deriving DecidableEq, Repr

/-- A row of the alias join, before it is inserted. -/
structure CorrelationCandidate where
  advisoryId : String
  exactAlias : String
  kevRecordId : String
  cveId : String
deriving DecidableEq, Repr

/-- A row of the match join, before it is inserted. -/
structure FactorCandidate where
  matchId : String
  advisoryId : String
  siteId : String
  kevRecordId : String
  cveId : String
  campaign : RansomwareCampaignStatus
deriving DecidableEq, Repr

namespace KevTables

variable (tables : KevTables)

def activeImport : Option (String × ImportRow) :=
  tables.imports.entries.find? fun entry => entry.2.sourceId = cisaKevSourceId && entry.2.active

/-- The records of an import, by CVE. -/
def recordsOf (importId : String) : List (String × RecordRow) :=
  (tables.records.entries.filter (·.1.1 = importId)).map fun entry => (entry.1.2, entry.2)

def existingImport (catalogVersion checksum : String) : Option String :=
  (tables.imports.entries.find? fun entry => entry.2.sourceId = cisaKevSourceId &&
    entry.2.catalogVersion = catalogVersion && entry.2.payloadSha256 = checksum).map Prod.fst

/-- The updates that leave no import, record, correlation and factor of the source current. -/
def deactivated : KevTables :=
  { tables with
    imports := tables.imports.map fun row => if row.sourceId = cisaKevSourceId then { row with active := false } else row
    records := tables.records.map fun row => { row with active := false }
    correlations := tables.correlations.map fun row => { row with current := false }
    factors := tables.factors.map fun row => { row with current := false } }

section

variable (digest : KevRecord → String)

def inserted (importId : String) (row : ImportRow) (records : List KevRecord) : KevTables :=
  { tables with
    imports := tables.imports.set importId row
    records := records.foldl (fun stored record =>
      stored.update (importId, record.cveId) fun _ => ⟨record, digest record, true⟩) tables.records }

def reactivated (importId : String) : KevTables :=
  { tables with
    imports := tables.imports.mapValues fun key row => if key = importId then { row with active := true } else row
    records := tables.records.mapValues fun key row => if key.1 = importId then { row with active := true } else row }

/-- The catalog becomes the active import, a new one or the one that holds it already. -/
def install (catalog : KevCatalog) (checksum freshId : String) : Except KevError (String × KevTables) :=
  match tables.existingImport catalog.catalogVersion checksum with
  | some importId => .ok (importId, tables.deactivated.reactivated importId)
  | none =>
    if (tables.imports.get? freshId).isSome then .error .importIdTaken
    else .ok (freshId, tables.deactivated.inserted digest freshId
      ⟨cisaKevSourceId, catalog.catalogVersion, catalog.sourceProvenance, catalog.catalogDateReleased, checksum, true⟩ catalog.records)

end

section

variable (upper : String → String)

def correlationCandidates (importId : String) : List CorrelationCandidate :=
  (tables.records.entries.flatMap fun entry =>
    if entry.1.1 = importId && entry.2.active then
      (tables.advisoryAliases.filter fun named =>
        upper named.2 = entry.1.2 && tables.advisoryCurrent.get? named.1 = some true).map fun named =>
          ⟨named.1, named.2, entry.2.record.kevRecordId, entry.1.2⟩
    else []).dedup

def correlate (importId : String) : Except KevError (KevTables × Nat) :=
  let rows := tables.correlationCandidates upper importId
  if maxKevCorrelations < rows.length then .error .correlationLimit
  else .ok ({ tables with
    correlations := rows.foldl (fun stored row =>
      stored.update (importId, row.advisoryId, row.cveId) fun old =>
        { (old.getD ⟨row.kevRecordId, true⟩) with current := true }) tables.correlations }, rows.length)

end

def factorCandidates (importId : String) : List FactorCandidate :=
  (tables.correlations.entries.flatMap fun correlation =>
    if correlation.1.1 = importId && correlation.2.current then
      (tables.records.entries.filter fun entry =>
        entry.1.1 = importId && entry.2.record.kevRecordId = correlation.2.kevRecordId).flatMap fun entry =>
          (tables.vulnerabilityMatches.entries.filter fun item =>
            item.2.advisoryId = correlation.1.2.1 && item.2.matchStatus = .affected).map fun item =>
              ⟨item.1, item.2.advisoryId, item.2.siteId, correlation.2.kevRecordId, correlation.1.2.2,
                entry.2.record.ransomwareCampaignStatus⟩
    else []).dedup

/-- What an insertion writes for a factor, and what it keeps of the row that is there already. -/
def upsertedFactor (freshness : CatalogFreshness) (row : FactorCandidate) (old : Option FactorRow) : FactorRow :=
  let status := priorityStatus row.campaign
  { advisoryId := (old.map (·.advisoryId)).getD row.advisoryId
    kevRecordId := (old.map (·.kevRecordId)).getD row.kevRecordId
    priorityStatus := status
    sourceFreshness := freshness
    baseWeight := baseWeight status
    adjustedWeight := adjustedWeight status freshness
    current := true }

def deriveFactors (importId : String) (freshness : CatalogFreshness) : Except KevError (KevTables × Nat) :=
  let rows := tables.factorCandidates importId
  if maxKevFactors < rows.length then .error .factorLimit
  else .ok ({ tables with
    factors := rows.foldl (fun stored row =>
      stored.update (importId, row.matchId, row.cveId) (upsertedFactor freshness row)) tables.factors }, rows.length)

/-- The sites of the matches of some factors, at most one more than may be evaluated. -/
def sitesOf (wanted : String × String × String → FactorRow → Bool) : List String :=
  (((tables.factors.entries.filter fun entry => wanted entry.1 entry.2).filterMap fun entry =>
    (tables.vulnerabilityMatches.get? entry.1.2.1).map (·.siteId)).dedup.insertionSort (· ≤ ·)).take (maxReevaluatedSites + 1)

end KevTables

section

variable (digest : KevRecord → String)

/-- The CVEs that only one catalog has, or that the two have with other digests. -/
def changedCves (previous : List (String × RecordRow)) (catalog : KevCatalog) : List String :=
  (previous.map Prod.fst).filter (fun cve => (catalog.record? cve).isNone) ++
    (catalog.records.filter fun record =>
      ((previous.lookup record.cveId).all fun row => row.recordDigest ≠ digest record)).map (·.cveId)

variable (upper : String → String)

/-- `import_kev_catalog`; `freshId` is the id of a new import. -/
def importKevCatalog (tables : KevTables) (catalog : KevCatalog) (checksum : String) (importedAt : Time) (freshId : String)
    (reactivateExisting : Bool) : Except KevError (KevTables × KevImportResult) := do
  let previousImport := tables.activeImport
  let previousRecords := (previousImport.map fun active => tables.recordsOf active.1).getD []
  let existing := tables.existingImport catalog.catalogVersion checksum
  if existing.isSome && !reactivateExisting then throw .catalogExists
  let (importId, installed) ← tables.install digest catalog checksum freshId
  let (correlated, correlationCount) ← installed.correlate upper importId
  let freshness := catalogFreshness catalog.catalogDateReleased importedAt
  let (derived, factorCount) ← correlated.deriveFactors importId freshness
  let changed := (changedCves digest previousRecords catalog).insertionSort (· ≤ ·)
  let ofChanged := derived.sitesOf fun key _ => changed.contains key.2.2
  let previousFreshness := previousImport.map fun active => catalogFreshness active.2.catalogDateReleased importedAt
  let ofFreshness :=
    if previousFreshness.any (· ≠ freshness) then derived.sitesOf fun key row => key.1 = importId && row.current else []
  let affectedSites := (ofChanged ++ ofFreshness).dedup.insertionSort (· ≤ ·)
  if maxReevaluatedSites < affectedSites.length then throw .siteLimit
  return (derived,
    { importId := importId
      catalogVersion := catalog.catalogVersion
      recordCount := catalog.records.length
      correlationCount := correlationCount
      priorityFactorCount := factorCount
      changedCves := changed.take 100
      changedCveCount := changed.length
      changedCvesTruncated := 100 < changed.length
      affectedSiteIds := affectedSites
      sourceFreshness := freshness
      reactivated := existing.isSome })

/-- `SqlKevStore.rebuild_active`. -/
def rebuildActive (tables : KevTables) (now : Time) (freshId : String) : Except KevError (KevTables × KevImportResult) := do
  match tables.activeImport with
  | none => throw .dataUnavailable
  | some (importId, active) =>
    let records := ((tables.recordsOf importId).insertionSort fun first second => first.1 ≤ second.1).map (·.2.record)
    match KevCatalog.construct active.sourceProvenance active.catalogVersion active.catalogDateReleased records with
    | none => throw .invalidCatalog
    | some catalog =>
      let (rebuilt, result) ← importKevCatalog digest upper tables catalog active.payloadSha256 now freshId true
      let allSites := rebuilt.sitesOf fun _ row => row.current
      if maxReevaluatedSites < allSites.length then throw .rebuildSiteLimit
      return (rebuilt, { result with affectedSiteIds := allSites })

end

end OpenAssetWatch.Kev
