import OpenAssetWatch.Ingestion.Envelope

namespace OpenAssetWatch.Ingestion

/-- `CANONICAL_ADMISSION_WINDOW`, one minute. -/
def admissionWindow : Time := 60000000

def admissionLimit : AdapterType → Nat
  | .endpointAgent => 12
  | .passiveSensor => 120
  | .pythonCollector => 30
  | .transitionalLocal => 30

def lowerTrustGlobalAdmissionMultiplier : Nat := 10
def maxReplayCount : Nat := 16

/-- Deliveries of one source under one idempotency key. The source id is a digest of site, adapter, authentication class
and identity, and the collection id one of source, adapter and key, so the deliveries share these. -/
structure Submission (ι : Type) where
  sourceAuthenticated : Bool
  adapterType : AdapterType
  payloadSha256 : ι → String
  ingestedAt : ι → Time

/-- What each delivery meets in the other tables. -/
structure Surroundings (ι : Type) where
  siteConfigured : Bool
  identityValid : ι → Bool
  globalBatches : ι → Nat
  recentBatches : ι → Nat

inductive Rejection where
  | siteNotConfigured
  | authorization
  | compatibilityWindow
  | adapterWindow
deriving DecidableEq, Repr

def Rejection.message : Rejection → String
  | .siteNotConfigured => "canonical ingestion site is not configured"
  | .authorization => "bound credential is no longer active"
  | .compatibilityWindow => "canonical compatibility admission window exceeded"
  | .adapterWindow => "canonical adapter admission window exceeded"

inductive Outcome where
  | accepted
  | duplicate
  | replayConflict
  | rejected (reason : Rejection)
  | uniqueViolation
deriving DecidableEq, Repr

/-- Where the transaction of a delivery stands; its next statement follows from it. -/
inductive Phase where
  | arrived
  | unlocked
  | locked
  | verified
  | cleared
  | inserted
  | replaying (replayCount : Nat)
  | counted (updated : Bool)
  | done (outcome : Outcome)
deriving DecidableEq, Repr

/-- The committed row of `canonical_inventory_collections` under the key. -/
structure CollectionRow where
  payloadSha256 : String
  ingestedAt : Time
  replayCount : Nat := 0
deriving DecidableEq

structure IngestionState (ι : Type) where
  phase : ι → Phase := fun _ => .arrived
  site : Option ι := none
  rowLock : Option ι := none
  collection : Option CollectionRow := none
  applied : List ι := []
  replayEvents : Nat := 0

section

variable {ι : Type} [DecidableEq ι]

def IngestionState.enter (state : IngestionState ι) (i : ι) (phase : Phase) : IngestionState ι :=
  { state with phase := Function.update state.phase i phase }

/-- The end of a transaction releases its locks. -/
def IngestionState.finish (state : IngestionState ι) (i : ι) (outcome : Outcome) : IngestionState ι :=
  { state with
    phase := Function.update state.phase i (.done outcome)
    site := if state.site = some i then none else state.site
    rowLock := if state.rowLock = some i then none else state.rowLock }

variable (submission : Submission ι) (surroundings : Surroundings ι)

/-- `SELECT … FROM sites … FOR UPDATE`, which waits for the holder. -/
def lockSiteRow (state : IngestionState ι) (i : ι) : IngestionState ι :=
  if surroundings.siteConfigured then
    if state.site = none then { state.enter i .locked with site := some i } else state
  else
    state.finish i (.rejected .siteNotConfigured)

/-- The query of `_existing_replay`. -/
def existingReplay (state : IngestionState ι) (i : ι) (missing : Phase) : IngestionState ι :=
  match state.collection with
  | none => state.enter i missing
  | some row =>
    if row.payloadSha256 ≠ submission.payloadSha256 i then state.finish i .replayConflict
    else state.enter i (.replaying row.replayCount)

/-- The collection under the key itself counts for the window when it is recent. -/
def ownBatches (state : IngestionState ι) (i : ι) : Nat :=
  if state.collection.any fun row => submission.ingestedAt i - admissionWindow < row.ingestedAt then 1 else 0

def admitCollection (state : IngestionState ι) (i : ι) : IngestionState ι :=
  let limit := admissionLimit submission.adapterType
  if !submission.sourceAuthenticated && limit * lowerTrustGlobalAdmissionMultiplier ≤
      surroundings.globalBatches i + ownBatches submission state i then
    state.finish i (.rejected .compatibilityWindow)
  else if limit ≤ surroundings.recentBatches i + ownBatches submission state i then
    state.finish i (.rejected .adapterWindow)
  else if state.collection.isSome then
    state.finish i .uniqueViolation
  else
    state.enter i .inserted

/-- The collection, the authority, the events and the mappings of the delivery become visible together. -/
def commitCollection (state : IngestionState ι) (i : ι) : IngestionState ι :=
  { state.finish i .accepted with
    collection := some { payloadSha256 := submission.payloadSha256 i, ingestedAt := submission.ingestedAt i }
    applied := state.applied ++ [i] }

/-- The update of the replay count waits for the row and tests it again. -/
def countReplay (state : IngestionState ι) (i : ι) (replayCount : Nat) : IngestionState ι :=
  if replayCount < maxReplayCount then
    if state.rowLock = none then
      { state.enter i (.counted (state.collection.any (·.replayCount < maxReplayCount))) with rowLock := some i }
    else
      state
  else
    state.finish i .duplicate

def commitReplay (state : IngestionState ι) (i : ι) (updated : Bool) : IngestionState ι :=
  if updated then
    { state.finish i .duplicate with
      collection := state.collection.map fun row => { row with replayCount := row.replayCount + 1 }
      replayEvents := state.replayEvents + 1 }
  else
    state.finish i .duplicate

/-- One statement of `persist_canonical_inventory` by a delivery. A lower-trust delivery looks for a replay before it
locks the site, an authenticated one after it. -/
def advance (state : IngestionState ι) (i : ι) : IngestionState ι :=
  match state.phase i with
  | .arrived =>
    if submission.sourceAuthenticated then lockSiteRow surroundings state i
    else existingReplay submission state i .unlocked
  | .unlocked => lockSiteRow surroundings state i
  | .locked =>
    if surroundings.identityValid i then state.enter i .verified else state.finish i (.rejected .authorization)
  | .verified =>
    if submission.sourceAuthenticated then existingReplay submission state i .cleared
    else admitCollection submission surroundings state i
  | .cleared => admitCollection submission surroundings state i
  | .inserted => commitCollection submission state i
  | .replaying replayCount => countReplay state i replayCount
  | .counted updated => commitReplay state i updated
  | .done _ => state

end

end OpenAssetWatch.Ingestion
