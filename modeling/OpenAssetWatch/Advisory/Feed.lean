import OpenAssetWatch.Advisory.Import
import OpenAssetWatch.Library.Guard

namespace OpenAssetWatch.Advisory

open Library Text

inductive RunState where
  | created
  | downloading
  | downloaded
  | verifying
  | verified
  | previewReady
  | pendingApproval
  | approved
  | importing
  | activated
  | activatedDegraded
  | rejected
  | failed
  | expired
deriving DecidableEq, Repr

/-- What activation reads and writes of a row of `advisory_feed_runs`. -/
structure FeedRun where
  runId : String
  state : RunState
  activeCatalogBefore : Option String := none
  activatedCatalogAfter : Option String := none
deriving DecidableEq, Repr

/-- What activation and rollback read and write of a row of `advisory_feed_catalogs`. -/
structure FeedCatalog where
  catalogId : String
  runId : String
  sourceId : String
  catalogVersion : String
  catalogSequence : Nat
  catalogChecksum : String
  catalogBytes : String
  manifestExpiresAt : Time
  active : Bool := false
  activationCount : Nat := 0
  firstActivatedAt : Option Time := none
  lastActivatedAt : Option Time := none
deriving DecidableEq, Repr

inductive ControlAction where
  | activate
  | rollback
deriving DecidableEq, Repr

/-- A row of `advisory_catalog_activations`. -/
structure CatalogActivation where
  activationId : String
  action : ControlAction
  sourceId : String
  catalogId : String
  previousCatalogId : Option String
  requestedBy : String
  createdAt : Time
deriving DecidableEq, Repr

structure FeedStore where
  tables : AdvisoryTables := {}
  runs : List FeedRun := []
  catalogs : List FeedCatalog := []
  activations : List CatalogActivation := []

/-- The code and the summary of an error. -/
structure SyncStoreError where
  code : String
  summary : String
deriving DecidableEq, Repr

/-- What a control action is called with; the ids are drawn by the action itself. -/
structure ControlCall where
  catalog : AdvisoryCatalog
  catalogChecksum : String
  actor : String
  now : Time
  activationId : String
  importId : String

def maxActor : Nat := 120

/-- `_safe_actor`. -/
def safeActor (value : String) : Except SyncStoreError String := do
  let actor := stripChars isSpace value.toList
  require (!actor.isEmpty && actor.length ≤ maxActor)
    ⟨"actor-invalid", "operator identity must be between 1 and 120 characters"⟩
  return String.ofList actor

section

variable (sha256 : String → String) (recordChecksum : AdvisoryRecord → String) (lower : String → String)

/-- The statements that activation and rollback share: the import, the switch of the active catalog and its record. -/
def switchCatalog (store : FeedStore) (call : ControlCall) (operator : String) (action : ControlAction) (target : FeedCatalog)
    (previous : Option String) : FeedStore :=
  { store with
    tables := (importCatalog recordChecksum lower store.tables call.catalog call.catalogChecksum call.importId call.now true).1
    catalogs := store.catalogs.map fun row =>
      if row.catalogId = target.catalogId then
        { row with
          active := true
          activationCount := row.activationCount + 1
          firstActivatedAt := if action = .activate then row.firstActivatedAt.or (some call.now) else row.firstActivatedAt
          lastActivatedAt := some call.now }
      else if row.sourceId = target.sourceId && row.active then { row with active := false }
      else row
    activations := store.activations ++ [{
      activationId := call.activationId
      action
      sourceId := target.sourceId
      catalogId := target.catalogId
      previousCatalogId := previous
      requestedBy := operator
      createdAt := call.now }] }

def activeCatalog (store : FeedStore) (sourceId : String) : Option String :=
  (store.catalogs.find? fun row => row.sourceId = sourceId && row.active).map (·.catalogId)

/-- `activate_run`. The expiry of the manifest is recorded before it is reported. -/
def activateRun (store : FeedStore) (runId : String) (call : ControlCall) : FeedStore × Except SyncStoreError Unit :=
  match safeActor call.actor with
  | .error error => (store, .error error)
  | .ok operator =>
    match store.runs.find? (·.runId = runId), store.catalogs.find? (·.runId = runId) with
    | some run, some target =>
      if run.state ≠ .approved then
        (store, .error ⟨"run-state-conflict", "only an approved verified run can be activated"⟩)
      else if target.manifestExpiresAt ≤ call.now then
        ({ store with runs := store.runs.map fun row => if row.runId = runId then { row with state := .expired } else row },
          .error ⟨"manifest-expired", "approved manifest expired before activation"⟩)
      else if sha256 target.catalogBytes ≠ call.catalogChecksum || target.catalogChecksum ≠ call.catalogChecksum then
        (store, .error ⟨"retained-catalog-digest-invalid", "retained catalog digest verification failed"⟩)
      else
        let previous := activeCatalog store target.sourceId
        if run.activeCatalogBefore ≠ previous then
          (store, .error ⟨"activation-preview-stale",
            "active catalog changed after preview; synchronize and review a fresh preview"⟩)
        else
          let switched := switchCatalog recordChecksum lower store call operator .activate target previous
          ({ switched with
            runs := switched.runs.map fun row => if row.runId = runId then
              { row with state := .activated, activatedCatalogAfter := some target.catalogId } else row }, .ok ())
    | _, _ => (store, .error ⟨"run-state-conflict", "only an approved verified run can be activated"⟩)

/-- The latest control action for a source. -/
def lastAction (store : FeedStore) (sourceId : String) : Option Time :=
  ((store.activations.filter (·.sourceId = sourceId)).map (·.createdAt)).max?

/-- `rollback_catalog`; the cooldown is in seconds. -/
def rollbackCatalog (store : FeedStore) (catalogId : String) (cooldown : Nat) (call : ControlCall) :
    FeedStore × Except SyncStoreError Unit :=
  match safeActor call.actor with
  | .error error => (store, .error error)
  | .ok operator =>
    match store.catalogs.find? fun row => row.catalogId = catalogId && 1 ≤ row.activationCount with
    | none => (store, .error ⟨"rollback-target-invalid", "rollback target is not a previously activated retained catalog"⟩)
    | some target =>
      if target.active then (store, .error ⟨"rollback-target-active", "rollback target is already active"⟩)
      else if (lastAction store target.sourceId).any fun recent => call.now - recent < cooldown * 1000000 then
        (store, .error ⟨"control-action-rate-limited", "catalog control action was requested too recently"⟩)
      else if sha256 target.catalogBytes ≠ call.catalogChecksum || target.catalogChecksum ≠ call.catalogChecksum then
        (store, .error ⟨"retained-catalog-digest-invalid", "retained rollback catalog digest verification failed"⟩)
      else
        (switchCatalog recordChecksum lower store call operator .rollback target (activeCatalog store target.sourceId), .ok ())

end

end OpenAssetWatch.Advisory
