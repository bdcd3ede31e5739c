import OpenAssetWatch.Clock
import OpenAssetWatch.Text.Purl
import OpenAssetWatch.Version.Compare
import OpenAssetWatch.Library.Dict
import OpenAssetWatch.Library.KeyedRows

namespace OpenAssetWatch.Advisory

open Text Version
open Library Text Version

structure CatalogSource where
  name : String
  version : String
  license : String
  provenance : String
deriving DecidableEq, Repr

structure AdvisoryReference where
  type : String
  url : String
deriving DecidableEq, Repr

structure AdvisoryCredit where
  name : String
  type : Option String := none
  contact : List String := []
deriving DecidableEq, Repr

structure AdvisorySeverityVector where
  type : String
  score : String
  source : Option String := none
deriving DecidableEq, Repr

structure AffectedComponent where
  ecosystem : String
  name : String
  identifier : Option String := none
  namespace_ : Option String := none
  vendor : Option String := none
  ranges : List VersionRange := []
  exactVersions : List String := []
  fixedVersions : List String := []
  architectures : List String := []
  platforms : List String := []
deriving DecidableEq, Repr

inductive Severity where
  | critical
  | high
  | medium
  | low
  | informational
deriving DecidableEq, Repr

inductive SeverityBasis where
  | legacy
  | upstreamCategorical
  | upstreamVector
  | derivedCvssV3
  | notReported
deriving DecidableEq, Repr

structure AdvisoryRecord where
  id : String
  aliases : List String := []
  title : String
  summary : String
  severity : Severity
  cvss : Option ℚ := none
  knownExploited : Bool := false
  publishedAt : Time
  modifiedAt : Time
  withdrawnAt : Option Time := none
  affected : List AffectedComponent
  references : List AdvisoryReference := []
  upstream : List String := []
  related : List String := []
  sourceRecordUrl : Option String := none
  sourceLicense : Option String := none
  severityBasis : SeverityBasis := .legacy
  upstreamSeverity : Option String := none
  severityVectors : List AdvisorySeverityVector := []
  credits : List AdvisoryCredit := []
deriving DecidableEq, Repr

def casefoldText (text : String) : String := String.ofList (casefold text.toList)

/-- A catalog with what its validators enforce across the records. -/
structure AdvisoryCatalog where
  catalogVersion : String
  source : CatalogSource
  generatedAt : Time
  advisories : List AdvisoryRecord
  distinct : (advisories.map fun record => casefoldText record.id).Nodup
deriving DecidableEq

/-- `advisory_id_for` hashes the pair; the digest is only ever used as a key, so the pair stands for it. -/
structure AdvisoryId where
  source : String
  sourceRecordId : String
deriving DecidableEq, Repr

def advisoryIdFor (source sourceRecordId : String) : AdvisoryId := ⟨casefoldText source, casefoldText sourceRecordId⟩

/-- `affected_id_for`, which hashes these. -/
structure AffectedId where
  advisoryId : AdvisoryId
  ecosystem : String
  identity : String
  ordinal : Nat
deriving DecidableEq, Repr

/-- The key of a range, a digest of these. -/
structure RangeId where
  affectedId : AffectedId
  ordinal : Nat
deriving DecidableEq, Repr

/-- A row of `advisory_catalog_imports`. -/
structure CatalogImport where
  importId : String
  catalogVersion : String
  source : CatalogSource
  checksum : String
  generatedAt : Time
  importedAt : Time
  advisoryCount : Nat
deriving DecidableEq, Repr

/-- What an import writes of a record into its row of `advisories`. -/
structure AdvisoryFields where
  sourceVersion : String
  title : String
  summary : String
  severity : Severity
  cvss : Option ℚ
  knownExploited : Bool
  publishedAt : Time
  modifiedAt : Time
  withdrawnAt : Option Time
  checksum : String
deriving DecidableEq, Repr

/-- A row of `advisories`. -/
structure AdvisoryRow extends AdvisoryFields where
  source : String
  sourceRecordId : String
  current : Bool
  catalogImportId : String
deriving DecidableEq, Repr

structure AdvisoryAlias where
  advisoryId : AdvisoryId
  alias_ : String
deriving DecidableEq, Repr

structure ReferenceRow where
  advisoryId : AdvisoryId
  ordinal : Nat
  reference : AdvisoryReference
deriving DecidableEq, Repr

/-- A row of `advisory_affected_components`. -/
structure AffectedRow where
  affectedId : AffectedId
  namespace_ : Option String
  vendor : Option String
  name : String
  normalizedName : String
  canonicalIdentifier : Option String
  exactVersions : List String
  fixedVersions : List String
  architectures : List String
  platforms : List String
deriving DecidableEq, Repr

def AffectedRow.advisoryId (row : AffectedRow) : AdvisoryId := row.affectedId.advisoryId

structure RangeRow where
  rangeId : RangeId
  range : VersionRange
deriving DecidableEq, Repr

def RangeRow.affectedId (row : RangeRow) : AffectedId := row.rangeId.affectedId

structure AdvisoryTables where
  imports : List CatalogImport := []
  advisories : Dict AdvisoryId AdvisoryRow := Dict.empty
  aliases : List AdvisoryAlias := []
  references : List ReferenceRow := []
  affectedComponents : List AffectedRow := []
  versionRanges : List RangeRow := []

structure ImportResult where
  importId : String
  catalogVersion : String
  source : String
  checksum : String
  advisoryCount : Nat
  duplicate : Bool
  reactivated : Bool
  importedAt : Time
deriving DecidableEq, Repr

/-- `"\x1f".join`. -/
def joinUnits (parts : List String) : String := "\x1f".intercalate parts

section Rows

variable (advisoryId : AdvisoryId)

def affectedIdFor (affected : AffectedComponent) (ordinal : Nat) : AffectedId :=
  let canonicalIdentifier := if affected.identifier.any (· ≠ "") then purlIdentity affected.identifier else none
  let identity := if canonicalIdentifier.any (· ≠ "") then canonicalIdentifier.getD ""
    else joinUnits [affected.vendor.getD "", affected.namespace_.getD "", normalizedToken maxComponentName (some affected.name)]
  ⟨advisoryId, affected.ecosystem, identity, ordinal⟩

def affectedRow (affected : AffectedComponent) (ordinal : Nat) : AffectedRow where
  affectedId := affectedIdFor advisoryId affected ordinal
  namespace_ := affected.namespace_
  vendor := affected.vendor
  name := affected.name
  normalizedName := normalizedToken maxComponentName (some affected.name)
  canonicalIdentifier := if affected.identifier.any (· ≠ "") then purlIdentity affected.identifier else none
  exactVersions := affected.exactVersions
  fixedVersions := affected.fixedVersions
  architectures := affected.architectures
  platforms := affected.platforms

def rangeRows (affectedId : AffectedId) (ranges : List VersionRange) : List RangeRow :=
  ranges.zipIdx.map fun range => ⟨⟨affectedId, range.2⟩, range.1⟩

def aliasRows (record : AdvisoryRecord) : List AdvisoryAlias := record.aliases.map (AdvisoryAlias.mk advisoryId)

def referenceRows (record : AdvisoryRecord) : List ReferenceRow :=
  record.references.zipIdx.map fun reference => ⟨advisoryId, reference.2, reference.1⟩

def affectedRows (record : AdvisoryRecord) : List AffectedRow :=
  record.affected.zipIdx.map fun affected => affectedRow advisoryId affected.1 affected.2

def allRangeRows (record : AdvisoryRecord) : List RangeRow :=
  record.affected.zipIdx.flatMap fun affected => rangeRows (affectedIdFor advisoryId affected.1 affected.2) affected.1.ranges

end Rows

section

variable (recordChecksum : AdvisoryRecord → String)

def fieldsOf (sourceVersion : String) (record : AdvisoryRecord) : AdvisoryFields where
  sourceVersion
  title := record.title
  summary := record.summary
  severity := record.severity
  cvss := record.cvss
  knownExploited := record.knownExploited
  publishedAt := record.publishedAt
  modifiedAt := record.modifiedAt
  withdrawnAt := record.withdrawnAt
  checksum := recordChecksum record

/-- The row of a record. A stored one keeps the spelling of its source and of its id. -/
def upsertAdvisory (source : CatalogSource) (importId : String) (record : AdvisoryRecord) (stored : Option AdvisoryRow) :
    AdvisoryRow where
  toAdvisoryFields := fieldsOf recordChecksum source.version record
  source := stored.elim source.name (·.source)
  sourceRecordId := stored.elim record.id (·.sourceRecordId)
  current := true
  catalogImportId := importId

/-- The statements for one record: the row is upserted, its children are deleted and inserted again. -/
def importRecord (source : CatalogSource) (importId : String) (tables : AdvisoryTables) (record : AdvisoryRecord) : AdvisoryTables :=
  let advisoryId := advisoryIdFor source.name record.id
  let deleted := tables.affectedComponents.filter fun row => row.advisoryId = advisoryId
  { tables with
    advisories := tables.advisories.update advisoryId (upsertAdvisory recordChecksum source importId record)
    aliases := replaceRows (·.advisoryId) advisoryId tables.aliases (aliasRows advisoryId record)
    references := replaceRows (·.advisoryId) advisoryId tables.references (referenceRows advisoryId record)
    affectedComponents := replaceRows (·.advisoryId) advisoryId tables.affectedComponents (affectedRows advisoryId record)
    -- The ranges go with the components that they belong to.
    versionRanges := (tables.versionRanges.filter fun row => !(deleted.map (·.affectedId)).contains row.affectedId) ++
      allRangeRows advisoryId record }

variable (lower : String → String)

/-- The update of the advisories that a snapshot of the source leaves out. -/
def retireStale (source : String) (importedIds : List AdvisoryId) (tables : AdvisoryTables) : AdvisoryTables :=
  { tables with
    advisories := tables.advisories.mapValues fun advisoryId row =>
      if lower row.source = lower source && row.current && !importedIds.contains advisoryId then { row with current := false }
      else row }

def importedIdsOf (catalog : AdvisoryCatalog) : List AdvisoryId :=
  catalog.advisories.map fun record => advisoryIdFor catalog.source.name record.id

/-- Every statement of the import after its own row. -/
def replaceSnapshot (catalog : AdvisoryCatalog) (importId : String) (tables : AdvisoryTables) : AdvisoryTables :=
  retireStale lower catalog.source.name (importedIdsOf catalog)
    (catalog.advisories.foldl (importRecord recordChecksum catalog.source importId) tables)

/-- The import of the same snapshot of the source, if there was one. -/
def existingImport (tables : AdvisoryTables) (catalog : AdvisoryCatalog) (checksum : String) : Option CatalogImport :=
  tables.imports.find? fun row => lower row.source.name = lower catalog.source.name &&
    row.catalogVersion = catalog.catalogVersion && row.checksum = checksum

def importResult (catalog : AdvisoryCatalog) (checksum importId : String) (importedAt : Time) (duplicate reactivated : Bool) :
    ImportResult where
  importId
  catalogVersion := catalog.catalogVersion
  source := catalog.source.name
  checksum
  advisoryCount := catalog.advisories.length
  duplicate
  reactivated
  importedAt

/-- `import_catalog`, with the id that a new import would get. -/
def importCatalog (tables : AdvisoryTables) (catalog : AdvisoryCatalog) (checksum newImportId : String) (importedAt : Time)
    (reactivateExisting : Bool) : AdvisoryTables × ImportResult :=
  match existingImport lower tables catalog checksum with
  | some existing =>
    if reactivateExisting then
      (replaceSnapshot recordChecksum lower catalog existing.importId tables,
        importResult catalog checksum existing.importId importedAt true true)
    else (tables, importResult catalog checksum existing.importId importedAt true false)
  | none =>
    let row : CatalogImport := {
      importId := newImportId
      catalogVersion := catalog.catalogVersion
      source := catalog.source
      checksum
      generatedAt := catalog.generatedAt
      importedAt
      advisoryCount := catalog.advisories.length }
    (replaceSnapshot recordChecksum lower catalog newImportId { tables with imports := tables.imports ++ [row] },
      importResult catalog checksum newImportId importedAt false false)

end

end OpenAssetWatch.Advisory
