import OpenAssetWatch.Advisory.Feed

namespace OpenAssetWatch.Advisory

open Library Text

/-- The states of a run that has not ended. -/
def RunState.active : RunState → Bool
  | .created | .downloading | .downloaded | .verifying | .verified | .previewReady | .pendingApproval | .approved | .importing => true
  | _ => false

inductive RequestMode where
  | remoteSync
  | localReviewedBundle
deriving DecidableEq, Repr

/-- What a verified bundle brings into the tables. -/
structure VerifiedBundle where
  catalogVersion : String
  catalogSequence : Nat
  manifestDigest : String
  payloadDigest : String
  catalogChecksum : String
  catalogBytes : String
  manifestExpiresAt : Time
deriving DecidableEq, Repr

/-- A row of `advisory_feed_runs`. -/
structure SyncRun extends FeedRun where
  sourceId : String
  requestMode : RequestMode
  requestedBy : String
  createdAt : Time
  manifestDigest : Option String := none
  payloadDigest : Option String := none
  catalogVersion : Option String := none
  catalogSequence : Option Nat := none
  approvedBy : Option String := none
  approvedAt : Option Time := none
  rejectedBy : Option String := none
  rejectedAt : Option Time := none
  rejectionReason : Option String := none
deriving DecidableEq, Repr

/-- A row of `advisory_feed_catalogs`. -/
structure SyncCatalog extends FeedCatalog where
  manifestDigest : String
  payloadDigest : String
  retainedAt : Time
deriving DecidableEq, Repr

/-- A call of `save_verified_bundle`; the id is drawn by the call itself. -/
structure SaveCall where
  runId : String
  sourceId : String
  bundle : VerifiedBundle
  now : Time
  catalogId : String
deriving DecidableEq, Repr

/-- A save that has read the tables, with the active catalog it found; it holds the lock of its run until it ends. -/
structure Saving where
  call : SaveCall
  activeBefore : Option String
deriving DecidableEq, Repr

structure SyncStore where
  tables : AdvisoryTables := {}
  runs : List SyncRun := []
  catalogs : List SyncCatalog := []
  activations : List CatalogActivation := []
  saving : List Saving := []

/-- The columns that activation and rollback use. -/
def SyncStore.feed (store : SyncStore) : FeedStore where
  tables := store.tables
  runs := store.runs.map (·.toFeedRun)
  catalogs := store.catalogs.map (·.toFeedCatalog)
  activations := store.activations

/-- The tables after a control action, which rewrites rows in their places and only in those columns. -/
def SyncStore.withFeed (store : SyncStore) (feed : FeedStore) : SyncStore :=
  { store with
    tables := feed.tables
    runs := List.zipWith (fun row columns => { row with toFeedRun := columns }) store.runs feed.runs
    catalogs := List.zipWith (fun row columns => { row with toFeedCatalog := columns }) store.catalogs feed.catalogs
    activations := feed.activations }

/-- Another transaction holds the row of a run. -/
def SyncStore.locked (store : SyncStore) (runId : String) : Bool := store.saving.any (·.call.runId = runId)

structure CreateCall where
  sourceId : String
  requestedBy : String
  requestMode : RequestMode
  minimumInterval : Nat
  now : Time
  runId : String

/-- `create_run`; the interval is in seconds. -/
def createRun (store : SyncStore) (call : CreateCall) : SyncStore × Except SyncStoreError Unit :=
  match safeActor call.requestedBy with
  | .error error => (store, .error error)
  | .ok actor =>
    if store.runs.any fun row => row.sourceId = call.sourceId && row.state.active then
      (store, .error ⟨"sync-already-active", "an advisory synchronization is already active for this source"⟩)
    else if ((store.runs.filter (·.sourceId = call.sourceId)).map (·.createdAt)).max?.any
        fun recent => call.now - recent < call.minimumInterval * 1000000 then
      (store, .error ⟨"sync-rate-limited", "advisory synchronization was requested too recently"⟩)
    else if store.runs.any (·.runId = call.runId) then
      (store, .error ⟨"sync-already-active", "an advisory synchronization is already active for this source"⟩)
    else
      ({ store with runs := store.runs ++ [{
          runId := call.runId
          state := .created
          sourceId := call.sourceId
          requestMode := call.requestMode
          requestedBy := actor
          createdAt := call.now }] }, .ok ())

def updateRow (runId : String) (expected : RunState → Bool) (change : SyncRun → SyncRun) (row : SyncRun) : SyncRun :=
  if row.runId = runId && expected row.state then change row else row

/-- `UPDATE advisory_feed_runs … WHERE run_id = … AND state IN …`. -/
def SyncStore.updateRun (store : SyncStore) (runId : String) (expected : RunState → Bool) (change : SyncRun → SyncRun)
    : SyncStore :=
  { store with runs := store.runs.map (updateRow runId expected change) }

/-- The update when it finds its row, the error when it does not. -/
def SyncStore.changeRun (store : SyncStore) (runId : String) (expected : RunState → Bool) (change : SyncRun → SyncRun)
    (error : SyncStoreError) : SyncStore × Except SyncStoreError Unit :=
  if store.runs.any fun row => row.runId = runId && expected row.state then (store.updateRun runId expected change, .ok ())
  else (store, .error error)

/-- `transition`, without the columns that no other operation reads. -/
def transition (store : SyncStore) (runId : String) (expected : List RunState) (state : RunState) :
    SyncStore × Except SyncStoreError Unit :=
  if expected.isEmpty then (store, .error ⟨"state-invalid", "advisory synchronization state transition is invalid"⟩)
  else store.changeRun runId (expected.contains ·) (fun row => { row with state })
    ⟨"run-state-conflict", "advisory synchronization run changed state concurrently"⟩

def activeRunStates : List RunState :=
  [.created, .downloading, .downloaded, .verifying, .verified, .previewReady, .pendingApproval, .approved, .importing]

/-- `fail_run`: a run that has ended stays as it is, without an error. -/
def failRun (store : SyncStore) (runId : String) : SyncStore × Except SyncStoreError Unit :=
  ((transition store runId activeRunStates .failed).1, .ok ())

/-- The transitions that a synchronisation makes on its own. -/
inductive Stage where
  | downloading
  | downloaded
  | verifying
deriving DecidableEq, Repr

def Stage.expected : Stage → RunState
  | .downloading => .created
  | .downloaded => .downloading
  | .verifying => .downloaded

def Stage.state : Stage → RunState
  | .downloading => .downloading
  | .downloaded => .downloaded
  | .verifying => .verifying

/-- `approve`. -/
def approve (store : SyncStore) (runId : String) (actor : String) (now : Time) : SyncStore × Except SyncStoreError Unit :=
  match safeActor actor with
  | .error error => (store, .error error)
  | .ok operator => store.changeRun runId (· = RunState.pendingApproval)
      (fun row => { row with state := .approved, approvedBy := some operator, approvedAt := some now })
      ⟨"run-state-conflict", "only a pending verified run can be approved"⟩

def maxErrorSummary : Nat := 240

/-- `reject`. -/
def reject (store : SyncStore) (runId : String) (actor reason : String) (now : Time) : SyncStore × Except SyncStoreError Unit :=
  match safeActor actor with
  | .error error => (store, .error error)
  | .ok operator =>
    let bounded := (stripChars isSpace reason.toList).take maxErrorSummary
    if bounded.isEmpty then (store, .error ⟨"rejection-reason-invalid", "rejection requires a bounded reason"⟩)
    else store.changeRun runId (· = RunState.pendingApproval)
      (fun row => { row with
        state := .rejected
        rejectedBy := some operator
        rejectedAt := some now
        rejectionReason := some (String.ofList bounded) })
      ⟨"run-state-conflict", "only a pending verified run can be rejected"⟩

/-- A catalog that some control action has made active. -/
def SyncStore.activated (store : SyncStore) (catalogId : String) : Bool := store.activations.any (·.catalogId = catalogId)

def SyncStore.ofSource (store : SyncStore) (sourceId : String) : List SyncCatalog := store.catalogs.filter (·.sourceId = sourceId)

/-- The newest catalog of a source among those that were activated. -/
def SyncStore.prior (store : SyncStore) (sourceId : String) : Option SyncCatalog :=
  ((store.ofSource sourceId).filter fun row => store.activated row.catalogId).argmax (·.catalogSequence)

def maxRetainedCatalogsPerSource : Nat := 100

/-- What `save_verified_bundle` checks before it writes; it answers the catalog that is active at that time. -/
def saveReads (store : SyncStore) (call : SaveCall) : Except SyncStoreError (Option String) := do
  require (store.runs.any fun row => row.runId = call.runId && row.sourceId = call.sourceId && row.state = .verifying)
    ⟨"run-state-conflict", "advisory synchronization run is not awaiting verification"⟩
  require ((store.ofSource call.sourceId).length < maxRetainedCatalogsPerSource)
    ⟨"catalog-retention-limit", "retained advisory catalog limit requires operator cleanup"⟩
  require ((store.prior call.sourceId).all fun prior => prior.catalogSequence < call.bundle.catalogSequence)
    ⟨"catalog-downgrade", "catalog sequence is not newer than retained state"⟩
  require ((store.prior call.sourceId).all fun prior => call.bundle.catalogVersion ≠ prior.catalogVersion)
    ⟨"catalog-version-replay", "catalog version has already been retained"⟩
  require (!(store.ofSource call.sourceId).any (·.manifestDigest = call.bundle.manifestDigest))
    ⟨"manifest-replay", "signed manifest has already been retained"⟩
  require (!(store.ofSource call.sourceId).any fun row =>
      row.payloadDigest = call.bundle.payloadDigest && row.manifestDigest ≠ call.bundle.manifestDigest)
    ⟨"payload-metadata-conflict", "identical payload was presented under different signed metadata"⟩
  return activeCatalog store.feed call.sourceId

/-- The unique constraints of `advisory_feed_catalogs` admit the row of a save, and so does the check on its sequence. -/
def SyncStore.admits (store : SyncStore) (call : SaveCall) : Bool :=
  0 < call.bundle.catalogSequence && store.catalogs.all fun row =>
    row.catalogId ≠ call.catalogId && row.runId ≠ call.runId &&
      (row.sourceId ≠ call.sourceId || row.catalogSequence ≠ call.bundle.catalogSequence &&
        row.catalogVersion ≠ call.bundle.catalogVersion && row.manifestDigest ≠ call.bundle.manifestDigest &&
        row.payloadDigest ≠ call.bundle.payloadDigest)

/-- The row that a save inserts. -/
def SaveCall.catalog (call : SaveCall) : SyncCatalog where
  catalogId := call.catalogId
  runId := call.runId
  sourceId := call.sourceId
  catalogVersion := call.bundle.catalogVersion
  catalogSequence := call.bundle.catalogSequence
  catalogChecksum := call.bundle.catalogChecksum
  catalogBytes := call.bundle.catalogBytes
  manifestExpiresAt := call.bundle.manifestExpiresAt
  manifestDigest := call.bundle.manifestDigest
  payloadDigest := call.bundle.payloadDigest
  retainedAt := call.now

/-- What a save writes to its run. -/
def Saving.retain (save : Saving) (row : SyncRun) : SyncRun :=
  { row with
    state := .pendingApproval
    manifestDigest := some save.call.bundle.manifestDigest
    payloadDigest := some save.call.bundle.payloadDigest
    catalogVersion := some save.call.bundle.catalogVersion
    catalogSequence := some save.call.bundle.catalogSequence
    activeCatalogBefore := save.activeBefore }

/-- `save_verified_bundle` up to its first write. -/
def saveRead (store : SyncStore) (call : SaveCall) : SyncStore × Except SyncStoreError Unit :=
  match saveReads store call with
  | .error error => (store, .error error)
  | .ok activeBefore => ({ store with saving := store.saving ++ [⟨call, activeBefore⟩] }, .ok ())

/-- The writes of `save_verified_bundle`, and its commit or its rollback. -/
def saveWrite (store : SyncStore) (save : Saving) : SyncStore × Except SyncStoreError Unit :=
  let released := { store with saving := store.saving.filter (· ≠ save) }
  if store.admits save.call then
    ({ released with catalogs := released.catalogs ++ [save.call.catalog] }.updateRun save.call.runId
      (· = RunState.verifying) save.retain,
      .ok ())
  else (released, .error ⟨"catalog-replay", "catalog replay or conflicting metadata was rejected"⟩)

inductive ReevaluationStatus where
  | running
  | completed
  | failed
deriving DecidableEq, Repr

/-- `mark_reevaluation`, on the run of the activated catalog. -/
def markReevaluation (store : SyncStore) (activationId : String) (status : ReevaluationStatus) :
    SyncStore × Except SyncStoreError Unit :=
  match store.activations.find? (·.activationId = activationId) with
  | none => (store, .error ⟨"activation-not-found", "catalog activation was not found"⟩)
  | some activation =>
    if activation.action = .activate then
      ({ store with runs := store.runs.map fun row =>
          if store.catalogs.any fun catalog => catalog.runId = row.runId && catalog.catalogId = activation.catalogId then
            match status with
            | .failed => { row with state := .activatedDegraded }
            | .completed => { row with state := .activated }
            | .running => row
          else row }, .ok ())
    else (store, .ok ())

inductive SyncEvent where
  | create (call : CreateCall)
  | advance (runId : String) (stage : Stage)
  | fail (runId : String)
  | saveRead (call : SaveCall)
  | saveWrite (runId : String)
  | saveAbort (runId : String)
  | approve (runId actor : String) (now : Time)
  | reject (runId actor reason : String) (now : Time)
  | activate (runId : String) (control : ControlCall)
  | rollback (catalogId : String) (cooldown : Nat) (control : ControlCall)
  | reevaluate (activationId : String) (status : ReevaluationStatus)

section

variable (sha256 : String → String) (recordChecksum : AdvisoryRecord → String) (lower : String → String)

/-- A call or a part of it. A call that waits for a lock does nothing: it takes its turn again later. -/
def syncStep (store : SyncStore) : SyncEvent → SyncStore
  | .create call => (createRun store call).1
  | .advance runId stage => if store.locked runId then store else (transition store runId [stage.expected] stage.state).1
  | .fail runId => if store.locked runId then store else (failRun store runId).1
  | .saveRead call =>
    if store.locked call.runId || store.saving.any (·.call.sourceId = call.sourceId) then store else (saveRead store call).1
  | .saveWrite runId =>
    match store.saving.find? (·.call.runId = runId) with
    | some save => (saveWrite store save).1
    | none => store
  | .saveAbort runId => { store with saving := store.saving.filter (·.call.runId ≠ runId) }
  | .approve runId actor now => if store.locked runId then store else (approve store runId actor now).1
  | .reject runId actor reason now => if store.locked runId then store else (reject store runId actor reason now).1
  | .activate runId control =>
    if store.locked runId then store
    else store.withFeed (activateRun sha256 recordChecksum lower store.feed runId control).1
  | .rollback catalogId cooldown control =>
    store.withFeed (rollbackCatalog sha256 recordChecksum lower store.feed catalogId cooldown control).1
  | .reevaluate activationId status => (markReevaluation store activationId status).1

end

/-- How one call may change a row of a run, saves and activations apart. -/
inductive Progress (row : SyncRun) : SyncRun → Prop
  | same : Progress row row
  | stage (stage : Stage) (before : row.state = stage.expected) : Progress row { row with state := stage.state }
  | fail (before : row.state.active = true) : Progress row { row with state := .failed }
  | approve (operator : String) (now : Time) (before : row.state = .pendingApproval) :
    Progress row { row with state := .approved, approvedBy := some operator, approvedAt := some now }
  | reject (operator : String) (now : Time) (reason : String) (before : row.state = .pendingApproval) :
    Progress row { row with
      state := .rejected, rejectedBy := some operator, rejectedAt := some now, rejectionReason := some reason }
  | expire (before : row.state = .approved) : Progress row { row with state := .expired }
  | mark (state : RunState) (before : row.state = .activated ∨ row.state = .activatedDegraded)
    (after : state = .activated ∨ state = .activatedDegraded) : Progress row { row with state }

/-- What the switch of the active catalog does to a row. -/
def switchRow (target : SyncCatalog) (action : ControlAction) (now : Time) (row : SyncCatalog) : SyncCatalog :=
  if row.catalogId = target.catalogId then
    { row with
      active := true
      activationCount := row.activationCount + 1
      firstActivatedAt := if action = .activate then row.firstActivatedAt.or (some now) else row.firstActivatedAt
      lastActivatedAt := some now }
  else if row.sourceId = target.sourceId && row.active then { row with active := false }
  else row

def SyncStore.activeCatalog (store : SyncStore) (sourceId : String) : Option String := Advisory.activeCatalog store.feed sourceId

/-- What an activation does to a row. -/
def activateRow (runId catalogId : String) (row : SyncRun) : SyncRun :=
  if row.runId = runId then { row with state := .activated, activatedCatalogAfter := some catalogId } else row

/-- The tables after a control action, but for the runs. -/
def SyncStore.switch (store : SyncStore) (tables : AdvisoryTables) (control : ControlCall) (operator : String)
    (action : ControlAction)
    (target : SyncCatalog) : SyncStore :=
  { store with
    tables
    catalogs := store.catalogs.map (switchRow target action control.now)
    activations := store.activations ++ [{
      activationId := control.activationId
      action
      sourceId := target.sourceId
      catalogId := target.catalogId
      previousCatalogId := store.activeCatalog target.sourceId
      requestedBy := operator
      createdAt := control.now }] }

/-- All that a call can do. -/
inductive Move (store : SyncStore) : SyncStore → Prop
  | create (run : SyncRun) (created : run.state = .created) (fresh : ∀ row ∈ store.runs, row.runId ≠ run.runId)
    (free : ∀ row ∈ store.runs, row.sourceId = run.sourceId → row.state.active = false) :
    Move store { store with runs := store.runs ++ [run] }
  | progress (change : SyncRun → SyncRun) (rows : ∀ row ∈ store.runs, Progress row (change row))
    (unlocked : ∀ row ∈ store.runs, store.locked row.runId = true → change row = row) :
    Move store { store with runs := store.runs.map change }
  | read (save : Saving) (checked : saveReads store save.call = .ok save.activeBefore)
    (free : store.locked save.call.runId = false) : Move store { store with saving := store.saving ++ [save] }
  | release (kept : Saving → Bool) : Move store { store with saving := store.saving.filter kept }
  | retain (save : Saving) (pending : save ∈ store.saving) (admitted : store.admits save.call = true) :
    Move store ({ store with
      saving := store.saving.filter (· ≠ save)
      catalogs := store.catalogs ++ [save.call.catalog] }.updateRun save.call.runId (· = RunState.verifying) save.retain)
  | activate (tables : AdvisoryTables) (control : ControlCall) (operator : String) (run : SyncRun) (target : SyncCatalog)
    (known : run ∈ store.runs) (retained : target ∈ store.catalogs) (owner : run.runId = target.runId)
    (approved : run.state = .approved) (unexpired : control.now < target.manifestExpiresAt)
    (baseline : run.activeCatalogBefore = store.activeCatalog target.sourceId) :
    Move store { store.switch tables control operator .activate target with
      runs := store.runs.map (activateRow run.runId target.catalogId) }
  | rollback (tables : AdvisoryTables) (control : ControlCall) (operator : String) (target : SyncCatalog)
    (retained : target ∈ store.catalogs) (activated : 1 ≤ target.activationCount) (idle : target.active = false) :
    Move store (store.switch tables control operator .rollback target)

end OpenAssetWatch.Advisory
