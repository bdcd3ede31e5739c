import OpenAssetWatch.Advisory.Feed
import OpenAssetWatch.Advisory.Snapshot

namespace OpenAssetWatch.Advisory

open Library Text Version

/-- A call of `import_catalog`. -/
structure ImportCall where
  catalog : AdvisoryCatalog
  checksum : String
  newImportId : String
  importedAt : Time
  reactivateExisting : Bool

def runImport (recordChecksum : AdvisoryRecord → String) (lower : String → String) (tables : AdvisoryTables) (call : ImportCall) :
    AdvisoryTables :=
  (importCatalog recordChecksum lower tables call.catalog call.checksum call.newImportId call.importedAt call.reactivateExisting).1

/-- A snapshot that was imported before is only imported again when the call asks for it. -/
def Replaces (lower : String → String) (tables : AdvisoryTables) (call : ImportCall) : Prop :=
  existingImport lower tables call.catalog call.checksum = none ∨ call.reactivateExisting = true

instance (lower : String → String) (tables : AdvisoryTables) (call : ImportCall) : Decidable (Replaces lower tables call) :=
  inferInstanceAs (Decidable (_ ∨ _))

section

variable {recordChecksum : AdvisoryRecord → String} {lower : String → String} {tables : AdvisoryTables} {call : ImportCall}

theorem AdvisoryTables.Keyed.record (keyed : tables.Keyed) (imports : List CatalogImport) : ({ tables with imports } : AdvisoryTables).Keyed :=
  ⟨keyed.owned, keyed.named⟩

theorem runImport_cases (recordChecksum : AdvisoryRecord → String) (lower : String → String) (tables : AdvisoryTables) (call : ImportCall) :
    (∃ imports importId, runImport recordChecksum lower tables call =
      replaceSnapshot recordChecksum lower call.catalog importId { tables with imports }) ∨
      ¬Replaces lower tables call ∧ runImport recordChecksum lower tables call = tables := by
  rw [runImport, importCatalog]
  cases found : existingImport lower tables call.catalog call.checksum with
  | none => exact Or.inl ⟨_, _, rfl⟩
  | some existing =>
    cases asked : call.reactivateExisting with
    | true => exact Or.inl ⟨tables.imports, existing.importId, rfl⟩
    | false =>
      refine Or.inr ⟨fun replaces => ?_, rfl⟩
      rcases replaces with fresh | again
      · rw [found] at fresh
        cases fresh
      · rw [asked] at again
        cases again

theorem runImport_keyed (keyed : tables.Keyed) : (runImport recordChecksum lower tables call).Keyed := by
  rcases runImport_cases recordChecksum lower tables call with ⟨imports, importId, same⟩ | ⟨-, same⟩
  · rw [same]
    exact replaceSnapshot_keyed (keyed.record imports)
  · rw [same]
    exact keyed

theorem importRecords_sources {property : String → Prop} {source : CatalogSource} {importId : String} {records : List AdvisoryRecord}
    (new : property source.name)
    (old : ∀ advisoryId row, tables.advisories.get? advisoryId = some row → property row.source) :
    ∀ advisoryId row, (records.foldl (importRecord recordChecksum source importId) tables).advisories.get? advisoryId = some row →
      property row.source := by
  induction records generalizing tables with
  | nil => exact old
  | cons record rest ih =>
    apply ih
    intro advisoryId row stored
    have stored : (tables.advisories.update (advisoryIdFor source.name record.id)
      (upsertAdvisory recordChecksum source importId record)).get? advisoryId = some row := stored
    rw [Dict.get?_update] at stored
    split at stored
    · cases stored
      cases before : tables.advisories.get? (advisoryIdFor source.name record.id) with
      | none => exact new
      | some other => exact old _ other before
    · exact old advisoryId row stored

theorem runImport_sources {property : String → Prop} (new : property call.catalog.source.name)
    (old : ∀ advisoryId row, tables.advisories.get? advisoryId = some row → property row.source) :
    ∀ advisoryId row, (runImport recordChecksum lower tables call).advisories.get? advisoryId = some row → property row.source := by
  intro advisoryId row stored
  rcases runImport_cases recordChecksum lower tables call with ⟨imports, importId, same⟩ | ⟨-, same⟩
  · rw [same, replaceSnapshot_get?, Option.map_eq_some_iff] at stored
    obtain ⟨before, found, rfl⟩ := stored
    have listed : ∀ advisoryId row, ({ tables with imports } : AdvisoryTables).advisories.get? advisoryId = some row →
      property row.source := old
    have kept : property before.source := importRecords_sources new listed advisoryId before found
    split
    · exact kept
    · exact kept
  · rw [same] at stored
    exact old advisoryId row stored

theorem empty_keyed : ({} : AdvisoryTables).Keyed := ⟨fun _ member => absurd member List.not_mem_nil, fun _ _ stored => by cases stored⟩

theorem runImport_current (keyed : tables.Keyed) (agree : NamesAgree lower tables call.catalog.source.name)
    (replaces : Replaces lower tables call) (advisoryId : AdvisoryId) :
    currentContent lower (runImport recordChecksum lower tables call) call.catalog.source.name advisoryId =
      catalogContent recordChecksum call.catalog advisoryId := by
  rcases runImport_cases recordChecksum lower tables call with ⟨imports, importId, same⟩ | ⟨skipped, -⟩
  · rw [same]
    exact replaceSnapshot_current (keyed.record imports) agree advisoryId
  · exact absurd replaces skipped

theorem runImport_other (keyed : tables.Keyed) (agree : NamesAgree lower tables call.catalog.source.name) {advisoryId : AdvisoryId}
    {row : AdvisoryRow} (stored : tables.advisories.get? advisoryId = some row)
    (other : lower row.source ≠ lower call.catalog.source.name) :
    (runImport recordChecksum lower tables call).advisories.get? advisoryId = some row ∧
      contentOf (runImport recordChecksum lower tables call) advisoryId row.toAdvisoryFields =
        contentOf tables advisoryId row.toAdvisoryFields := by
  rcases runImport_cases recordChecksum lower tables call with ⟨imports, importId, same⟩ | ⟨-, same⟩
  · rw [same]
    exact replaceSnapshot_other (keyed.record imports) agree stored other
  · rw [same]
    exact ⟨stored, rfl⟩

end

section

variable {sha256 : String → String} {recordChecksum : AdvisoryRecord → String} {lower : String → String} {store : FeedStore}
  {control : ControlCall}

/-- The import of a control action. -/
def ControlCall.importCall (control : ControlCall) : ImportCall where
  catalog := control.catalog
  checksum := control.catalogChecksum
  newImportId := control.importId
  importedAt := control.now
  reactivateExisting := true

/-- What a control action does to the tables: all of an import, or nothing when it fails. -/
def ImportsOrFails (recordChecksum : AdvisoryRecord → String) (lower : String → String) (store : FeedStore) (call : ImportCall)
    (result : FeedStore × Except SyncStoreError Unit) : Prop :=
  (∃ error, result.2 = .error error) ∧ result.1.tables = store.tables ∨
    result.1.tables = runImport recordChecksum lower store.tables call

theorem activateRun_tables (store : FeedStore) (runId : String) (control : ControlCall) :
    ImportsOrFails recordChecksum lower store control.importCall (activateRun sha256 recordChecksum lower store runId control) := by
  rw [activateRun]
  split
  · exact Or.inl ⟨⟨_, rfl⟩, rfl⟩
  · split
    · split
      · exact Or.inl ⟨⟨_, rfl⟩, rfl⟩
      · split
        · exact Or.inl ⟨⟨_, rfl⟩, rfl⟩
        · split
          · exact Or.inl ⟨⟨_, rfl⟩, rfl⟩
          · simp only
            split
            · exact Or.inl ⟨⟨_, rfl⟩, rfl⟩
            · exact Or.inr rfl
    · exact Or.inl ⟨⟨_, rfl⟩, rfl⟩

theorem rollbackCatalog_tables (store : FeedStore) (catalogId : String) (cooldown : Nat) (control : ControlCall) :
    ImportsOrFails recordChecksum lower store control.importCall
      (rollbackCatalog sha256 recordChecksum lower store catalogId cooldown control) := by
  rw [rollbackCatalog]
  split
  · exact Or.inl ⟨⟨_, rfl⟩, rfl⟩
  · split
    · exact Or.inl ⟨⟨_, rfl⟩, rfl⟩
    · split
      · exact Or.inl ⟨⟨_, rfl⟩, rfl⟩
      · split
        · exact Or.inl ⟨⟨_, rfl⟩, rfl⟩
        · split
          · exact Or.inl ⟨⟨_, rfl⟩, rfl⟩
          · exact Or.inr rfl

end

/-- The ways in which a catalog reaches the advisory tables. -/
inductive CatalogEvent where
  | imported (call : ImportCall)
  | activated (runId : String) (control : ControlCall)
  | rolledBack (catalogId : String) (cooldown : Nat) (control : ControlCall)

def CatalogEvent.call : CatalogEvent → ImportCall
  | .imported call => call
  | .activated _ control => control.importCall
  | .rolledBack _ _ control => control.importCall

section

variable (sha256 : String → String) (recordChecksum : AdvisoryRecord → String) (lower : String → String)

def catalogStep (store : FeedStore) : CatalogEvent → FeedStore
  | .imported call => { store with tables := runImport recordChecksum lower store.tables call }
  | .activated runId control => (activateRun sha256 recordChecksum lower store runId control).1
  | .rolledBack catalogId cooldown control => (rollbackCatalog sha256 recordChecksum lower store catalogId cooldown control).1

/-- The event imports its catalog: an import is no duplicate, an activation and a rollback do not fail. -/
def Completes (store : FeedStore) : CatalogEvent → Prop
  | .imported call => Replaces lower store.tables call
  | .activated runId control => ¬∃ error, (activateRun sha256 recordChecksum lower store runId control).2 = .error error
  | .rolledBack catalogId cooldown control =>
    ¬∃ error, (rollbackCatalog sha256 recordChecksum lower store catalogId cooldown control).2 = .error error

end

section

variable {sha256 : String → String} {recordChecksum : AdvisoryRecord → String} {lower : String → String} {store : FeedStore}
  {event : CatalogEvent}

theorem ImportsOrFails.tables {call : ImportCall} {result : FeedStore × Except SyncStoreError Unit}
    (outcome : ImportsOrFails recordChecksum lower store call result) :
    result.1.tables = store.tables ∨ result.1.tables = runImport recordChecksum lower store.tables call :=
  outcome.imp And.right id

theorem catalogStep_tables (sha256 : String → String) (recordChecksum : AdvisoryRecord → String) (lower : String → String)
    (store : FeedStore) (event : CatalogEvent) :
    (catalogStep sha256 recordChecksum lower store event).tables = store.tables ∨
      (catalogStep sha256 recordChecksum lower store event).tables = runImport recordChecksum lower store.tables event.call := by
  cases event with
  | imported call => exact Or.inr rfl
  | activated runId control => exact (activateRun_tables store runId control).tables
  | rolledBack catalogId cooldown control => exact (rollbackCatalog_tables store catalogId cooldown control).tables

theorem catalogStep_completes (completes : Completes sha256 recordChecksum lower store event) :
    Replaces lower store.tables event.call ∧
      (catalogStep sha256 recordChecksum lower store event).tables = runImport recordChecksum lower store.tables event.call := by
  cases event with
  | imported call => exact ⟨completes, rfl⟩
  | activated runId control =>
    exact ⟨Or.inr rfl, (activateRun_tables store runId control).resolve_left fun failed => completes failed.1⟩
  | rolledBack catalogId cooldown control =>
    exact ⟨Or.inr rfl, (rollbackCatalog_tables store catalogId cooldown control).resolve_left fun failed => completes failed.1⟩

theorem catalogHistory (sha256 : String → String) (recordChecksum : AdvisoryRecord → String) (lower : String → String)
    (property : String → Prop) (store : FeedStore) {history : List CatalogEvent} (keyed : store.tables.Keyed)
    (new : ∀ event ∈ history, property event.call.catalog.source.name)
    (old : ∀ advisoryId row, store.tables.advisories.get? advisoryId = some row → property row.source) :
    (history.foldl (catalogStep sha256 recordChecksum lower) store).tables.Keyed ∧
      ∀ advisoryId row, (history.foldl (catalogStep sha256 recordChecksum lower) store).tables.advisories.get? advisoryId = some row →
        property row.source := by
  induction history generalizing store with
  | nil => exact ⟨keyed, old⟩
  | cons event rest ih =>
    have later (other : CatalogEvent) (member : other ∈ rest) := new other (List.mem_cons_of_mem _ member)
    rcases catalogStep_tables sha256 recordChecksum lower store event with same | same
    · apply ih _ _ later
      · rw [same]
        exact old
      · rw [same]
        exact keyed
    · apply ih _ _ later
      · rw [same]
        exact runImport_sources (new event List.mem_cons_self) old
      · rw [same]
        exact runImport_keyed keyed

end

/-- Samples: the database folds ASCII letters, and the digests are the texts themselves. -/
def sampleLower (name : String) : String := String.ofList (name.toList.map Char.toLower)

def sampleRecord (id : String) : AdvisoryRecord where
  id
  aliases := ["CVE-2024-0001"]
  title := id
  summary := "overflow"
  severity := .high
  publishedAt := 0
  modifiedAt := 0
  affected := [{
    ecosystem := "pypi"
    name := "demo"
    ranges := [{ introduced := some "1.0", fixed := some "1.2", lastAffected := none }] }]

def sampleCatalog (source version id : String) : AdvisoryCatalog where
  catalogVersion := version
  source := { name := source, version, license := "CC0", provenance := "feed" }
  generatedAt := 0
  advisories := [sampleRecord id]
  distinct := List.nodup_singleton _

/-- An import of the only record of a catalog, whose checksum is its version. -/
def sampleImport (source version id : String) (reactivateExisting : Bool) : ImportCall where
  catalog := sampleCatalog source version id
  checksum := version
  newImportId := version
  importedAt := 0
  reactivateExisting

/-- An import that completes replaces what its source says and nothing else, and after any history of catalogs whose names
fold alike when the database takes them for one, it leaves what it would have left if it had come first. -/
theorem importCatalog_replaces (sha256 : String → String) (recordChecksum : AdvisoryRecord → String) (lower : String → String)
    (store : FeedStore) (event : CatalogEvent) (keyed : store.tables.Keyed)
    (agree : NamesAgree lower store.tables event.call.catalog.source.name)
    (completes : Completes sha256 recordChecksum lower store event) :
    (∀ advisoryId, currentContent lower (catalogStep sha256 recordChecksum lower store event).tables event.call.catalog.source.name
      advisoryId = catalogContent recordChecksum event.call.catalog advisoryId) ∧
    (∀ advisoryId row, store.tables.advisories.get? advisoryId = some row →
      lower row.source ≠ lower event.call.catalog.source.name →
      (catalogStep sha256 recordChecksum lower store event).tables.advisories.get? advisoryId = some row ∧
        contentOf (catalogStep sha256 recordChecksum lower store event).tables advisoryId row.toAdvisoryFields =
          contentOf store.tables advisoryId row.toAdvisoryFields) ∧
    ∀ (start : FeedStore) (history : List CatalogEvent), start.tables.advisories = Dict.empty → start.tables.versionRanges = [] →
      (∀ earlier ∈ history, casefoldText earlier.call.catalog.source.name = casefoldText event.call.catalog.source.name ↔
        lower earlier.call.catalog.source.name = lower event.call.catalog.source.name) →
      Completes sha256 recordChecksum lower (history.foldl (catalogStep sha256 recordChecksum lower) start) event →
      ∀ advisoryId, currentContent lower
          (catalogStep sha256 recordChecksum lower (history.foldl (catalogStep sha256 recordChecksum lower) start) event).tables
          event.call.catalog.source.name advisoryId =
        currentContent lower (runImport recordChecksum lower {} event.call) event.call.catalog.source.name advisoryId := by
  obtain ⟨replaces, same⟩ := catalogStep_completes completes
  rw [same]
  refine ⟨runImport_current keyed agree replaces, fun _ _ => runImport_other keyed agree, ?_⟩
  intro start history empty ranges names done advisoryId
  have first : ({} : AdvisoryTables).Keyed := empty_keyed
  have startKeyed : start.tables.Keyed := by
    refine ⟨fun range member => ?_, fun advisoryId row stored => ?_⟩
    · rw [ranges] at member
      cases member
    · rw [empty] at stored
      cases stored
  have none (advisoryId : AdvisoryId) (row : AdvisoryRow) (stored : start.tables.advisories.get? advisoryId = some row) : False := by
    rw [empty] at stored
    cases stored
  obtain ⟨keyedThen, agreeThen⟩ := catalogHistory sha256 recordChecksum lower
    (fun name => casefoldText name = casefoldText event.call.catalog.source.name ↔ lower name = lower event.call.catalog.source.name)
    start startKeyed names fun advisoryId row stored => (none advisoryId row stored).elim
  obtain ⟨replacesThen, sameThen⟩ := catalogStep_completes done
  have fresh : Replaces lower {} event.call := Or.inl rfl
  rw [sameThen, runImport_current keyedThen agreeThen replacesThen, runImport_current first _ fresh]
  intro advisoryId row stored
  cases stored

/-- Two snapshots of one source after one of another. -/
def sampleHistory : List CatalogEvent :=
  [.imported (sampleImport "nvd" "1" "CVE-2024-0001" false), .imported (sampleImport "osv" "1" "PYSEC-1" false),
    .imported (sampleImport "osv" "2" "PYSEC-2" false)]

def sampleStore : FeedStore := sampleHistory.foldl (catalogStep id (fun _ => "") sampleLower) {}

theorem importCatalog_replaces_sample :
    (∀ advisoryId, currentContent sampleLower (runImport (fun _ => "") sampleLower sampleStore.tables
        (sampleImport "osv" "1" "PYSEC-1" true)) "osv" advisoryId =
      catalogContent (fun _ => "") (sampleCatalog "osv" "1" "PYSEC-1") advisoryId) ∧
    ∀ advisoryId, currentContent sampleLower (runImport (fun _ => "") sampleLower sampleStore.tables
        (sampleImport "osv" "1" "PYSEC-1" true)) "osv" advisoryId =
      currentContent sampleLower (runImport (fun _ => "") sampleLower {} (sampleImport "osv" "1" "PYSEC-1" true)) "osv" advisoryId := by
  have names : ∀ earlier ∈ sampleHistory, casefoldText earlier.call.catalog.source.name = casefoldText "osv" ↔
      sampleLower earlier.call.catalog.source.name = sampleLower "osv" := by decide
  obtain ⟨keyed, agree⟩ := catalogHistory id (fun _ => "") sampleLower
    (fun name => casefoldText name = casefoldText "osv" ↔ sampleLower name = sampleLower "osv") {} empty_keyed names
    fun _ _ stored => by cases stored
  have replaced := importCatalog_replaces id (fun _ => "") sampleLower sampleStore
    (.imported (sampleImport "osv" "1" "PYSEC-1" true)) keyed agree (Or.inr rfl)
  exact ⟨replaced.1, replaced.2.2 {} sampleHistory rfl rfl names (Or.inr rfl)⟩

/-- An import that repeats a snapshot leaves the later one in place, and two sources that only fold alike share their rows. -/
theorem importCatalog_keeps_duplicate :
    currentContent sampleLower (runImport (fun _ => "") sampleLower sampleStore.tables (sampleImport "osv" "1" "PYSEC-1" false)) "osv"
        (advisoryIdFor "osv" "PYSEC-1") = none ∧
      (catalogContent (fun _ => "") (sampleCatalog "osv" "1" "PYSEC-1") (advisoryIdFor "osv" "PYSEC-1")).isSome ∧
      (currentContent sampleLower (runImport (fun _ => "") sampleLower
        (runImport (fun _ => "") sampleLower {} (sampleImport "Strasse" "1" "A" false)) (sampleImport "Straße" "2" "A" false)) "Strasse"
        (advisoryIdFor "Strasse" "A")).map (·.fields.sourceVersion) = some "2" := by
  decide

end OpenAssetWatch.Advisory
