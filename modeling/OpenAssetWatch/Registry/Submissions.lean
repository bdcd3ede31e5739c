import OpenAssetWatch.Ingestion.Assets
import OpenAssetWatch.Registry.CollectorLaw

namespace OpenAssetWatch.Registry

open Library Text
open Ingestion (normalizeMacAddress)

section Tables

/-- A row of `assets`. -/
structure AssetRow where
  assetKey : String
  assetKind : String
  hostname : Option String
  primaryIp : Option String
  macAddress : Option String
  source : String
  collectorId : Option String
  firstSeenAt : Time
  lastSeenAt : Time
  lastSubmissionId : Nat
  metadata : List (String × Json)

/-- `UNIQUE` of `asset_key`. -/
def AssetRow.Apart (a b : AssetRow) : Prop := a.assetKey ≠ b.assetKey

instance : DecidableRel AssetRow.Apart := fun a b => inferInstanceAs (Decidable (a.assetKey ≠ b.assetKey))

/-- A row of `asset_ip_history`. -/
structure AddressRow where
  assetId : Nat
  ipAddress : Option String
  macAddress : Option String
  interface : Option String
  state : Option String
  source : Option String
  firstSeenAt : Time
  lastSeenAt : Time
  observationsCount : Nat

/-- `asset_ip_history` has no unique constraint. -/
def AddressRow.Apart (_ _ : AddressRow) : Prop := True

instance : DecidableRel AddressRow.Apart := fun _ _ => inferInstanceAs (Decidable True)

/-- A row of `asset_software_detections`. -/
structure SoftwareRow where
  assetId : Nat
  name : String
  category : Option String
  detected : Option Bool
  version : Option String
  evidence : List Json
  confidence : Option String
  scope : Option String
  source : Option String
  firstSeenAt : Time
  lastSeenAt : Time

/-- The row conflicts with a row of this asset, name and category; an absent category conflicts with nothing. -/
def SoftwareRow.conflicts (assetId : Nat) (name : String) (category : Option String) (row : SoftwareRow) : Bool :=
  row.assetId = assetId && row.name = name && category.isSome && row.category = category

/-- `UNIQUE (asset_id, name, category)`. -/
def SoftwareRow.Apart (a b : SoftwareRow) : Prop := b.conflicts a.assetId a.name a.category = false

instance : DecidableRel SoftwareRow.Apart := fun a b =>
  inferInstanceAs (Decidable (b.conflicts a.assetId a.name a.category = false))

structure Database where
  collectors : CollectorTable
  assets : SerialTable AssetRow.Apart
  addresses : SerialTable AddressRow.Apart
  software : SerialTable SoftwareRow.Apart

def Database.empty : Database := ⟨SerialTable.empty, SerialTable.empty, SerialTable.empty, SerialTable.empty⟩

end Tables

section Submissions

/-- The arguments of `normalize_inventory_submission`. -/
structure Submission where
  submissionId : Nat
  payload : List (String × Json)
  collectorGuid : Option String := none
  collectorId : Option String := none
  collectorName : Option String := none
  collectorVersion : Option String := none
  mode : Option String := none
  receivedAt : Time := 0
  supportedCapabilities : Json := .null
  enabledCapabilities : Json := .null

/-- What a sighting writes into `assets` and `asset_ip_history`. -/
structure Sighting where
  assetKey : String
  assetKind : String
  hostname : Option String
  primaryIp : Option String
  macAddress : Option String
  assetSource : String
  interface : Option String
  state : Option String
  source : Option String
  metadata : List (String × Json)

def dictEntries : List Json → List (List (String × Json))
  | [] => []
  | .object entries :: rest => entries :: dictEntries rest
  | _ :: rest => dictEntries rest

/-- `_metadata_object`. -/
def metadataObject : Json → List (String × Json)
  | .object entries => entries
  | _ => []

def listItems : Json → List Json
  | .array items => items
  | _ => []

variable (printed : Json → String) (submission : Submission)

def Submission.get (name : String) : Json := (Json.object submission.payload).get name

/-- `_network_entries`. -/
def networkEntries : List (List (String × Json)) :=
  match submission.get "network" with
  | .array items => dictEntries items
  | .object network =>
    match (Json.object network).get "neighbors" with
    | .array neighbors => dictEntries neighbors
    | _ => dictEntries (listItems ((Json.object network).get "observations"))
  | _ => []

/-- `_software_entries`. -/
def softwareEntries : List (List (String × Json)) := dictEntries (listItems (submission.get "software"))

def Submission.collectorCall : CollectorCall where
  collectorGuid := submission.collectorGuid
  collectorId := submission.collectorId
  collectorName := submission.collectorName
  collectorVersion := submission.collectorVersion
  deployment := metadataObject (submission.get "deployment")
  labels := metadataObject (submission.get "labels")
  supportedCapabilities :=
    (capabilityList printed
      (listItems (submission.supportedCapabilities.orElse (submission.get "supported_capabilities")))).map .string
  enabledCapabilities :=
    (capabilityList printed
      (listItems (submission.enabledCapabilities.orElse (submission.get "enabled_capabilities")))).map .string
  mode := submission.mode
  seenAt := submission.receivedAt
  lastSubmissionId := some submission.submissionId

/-- The local device of a submission. -/
def deviceSighting (device : List (String × Json)) : Sighting :=
  let hostname := cleanText printed ((Json.object device).get "hostname")
  let primaryIp := cleanText printed ((Json.object device).get "primary_ip")
  { assetKey :=
      match submission.collectorGuid.filter (· ≠ ""), submission.collectorId.filter (· ≠ "") with
      | some guid, _ => "collector_guid:" ++ guid ++ ":device"
      | none, some collectorId => "collector:" ++ collectorId ++ ":device"
      | none, none => "device:" ++ (hostname.or primaryIp).getD (toString submission.submissionId)
    assetKind := "collector_device"
    hostname
    primaryIp
    macAddress := normalizeMacAddress printed ((Json.object device).get "mac_address")
    assetSource := "collector_device"
    interface := none
    state := none
    source := some "collector_device"
    metadata := device }

def localDevice : Option Sighting :=
  match submission.get "device" with
  | .object device => some (deviceSighting printed submission device)
  | _ => none

/-- A neighbor without an address is passed over. -/
def neighborSighting (neighbor : List (String × Json)) : Option Sighting :=
  let field (name : String) := (Json.object neighbor).get name
  let ipAddress := cleanText printed ((field "ip_address").orElse (field "ip"))
  let macAddress := normalizeMacAddress printed ((field "mac_address").orElse (field "mac"))
  let sighting (assetKey : String) : Sighting :=
    { assetKey
      assetKind := "network_neighbor"
      hostname := none
      primaryIp := ipAddress
      macAddress
      assetSource := (cleanText printed (field "source")).getD "network"
      interface := cleanText printed (field "interface")
      state := cleanText printed (field "state")
      source := cleanText printed (field "source")
      metadata := neighbor }
  match macAddress, ipAddress with
  | some mac, _ => some (sighting ("mac:" ++ mac.toLower))
  | none, some ip => some (sighting ("ip:" ++ ip))
  | none, none => none

def neighborSightings : List Sighting := (networkEntries submission).filterMap (neighborSighting printed)

end Submissions

section Statements

variable (submission : Submission)

def Sighting.assetRow (sighting : Sighting) : AssetRow where
  assetKey := sighting.assetKey
  assetKind := sighting.assetKind
  hostname := sighting.hostname
  primaryIp := sighting.primaryIp
  macAddress := sighting.macAddress
  source := sighting.assetSource
  collectorId := submission.collectorId
  firstSeenAt := submission.receivedAt
  lastSeenAt := submission.receivedAt
  lastSubmissionId := submission.submissionId
  metadata := sighting.metadata

/-- `ON CONFLICT (asset_key) DO UPDATE`. -/
def AssetRow.overwrite (excluded row : AssetRow) : AssetRow :=
  { row with
    hostname := excluded.hostname.or row.hostname
    primaryIp := excluded.primaryIp.or row.primaryIp
    macAddress := excluded.macAddress.or row.macAddress
    source := excluded.source
    collectorId := excluded.collectorId.or row.collectorId
    lastSeenAt := excluded.lastSeenAt
    lastSubmissionId := excluded.lastSubmissionId
    metadata := excluded.metadata }

/-- `_upsert_asset`. -/
def upsertAsset (assets : SerialTable AssetRow.Apart) (sighting : Sighting) : Option (SerialTable AssetRow.Apart × Nat) :=
  assets.upsert (fun row => row.assetKey = sighting.assetKey) (sighting.assetRow submission).overwrite
    (sighting.assetRow submission)

def truthy (text : Option String) : Bool := text.any (· ≠ "")

/-- The row is one of this asset with these addresses, where an absent one counts as empty. -/
def AddressRow.holds (assetId : Nat) (ipAddress macAddress : Option String) (row : AddressRow) : Bool :=
  row.assetId = assetId && row.ipAddress.getD "" = ipAddress.getD "" && row.macAddress.getD "" = macAddress.getD ""

def Sighting.addressRow (sighting : Sighting) (assetId : Nat) : AddressRow where
  assetId
  ipAddress := sighting.primaryIp
  macAddress := sighting.macAddress
  interface := sighting.interface
  state := sighting.state
  source := sighting.source
  firstSeenAt := submission.receivedAt
  lastSeenAt := submission.receivedAt
  observationsCount := 1

/-- The `UPDATE` of an address that is seen again. -/
def AddressRow.seenAgain (seen row : AddressRow) : AddressRow :=
  { row with
    interface := seen.interface.or row.interface
    state := seen.state.or row.state
    source := seen.source.or row.source
    lastSeenAt := seen.lastSeenAt
    observationsCount := row.observationsCount + 1 }

/-- `_record_ip_observation`; the ids of the sequence are no zeros, so that a row that is found counts as found. -/
def recordIpObservation (addresses : SerialTable AddressRow.Apart) (assetId : Nat) (sighting : Sighting) :
    Option (SerialTable AddressRow.Apart) :=
  if !truthy sighting.primaryIp && !truthy sighting.macAddress then some addresses
  else
    (addresses.upsert (AddressRow.holds assetId sighting.primaryIp sighting.macAddress)
      (sighting.addressRow submission assetId).seenAgain (sighting.addressRow submission assetId)).map Prod.fst

variable (printed : Json → String) (bindBoolean : Json → Option (Option Bool))

def softwareName (software : List (String × Json)) : Option String := cleanText printed ((Json.object software).get "name")

def softwareCategory (software : List (String × Json)) : Option String :=
  cleanText printed ((Json.object software).get "category")

def softwareRow (assetId : Nat) (name : String) (software : List (String × Json)) (detected : Option Bool) : SoftwareRow where
  assetId
  name
  category := softwareCategory printed software
  detected
  version := cleanText printed ((Json.object software).get "version")
  evidence := listItems ((Json.object software).get "evidence")
  confidence := cleanText printed ((Json.object software).get "confidence")
  scope := cleanText printed ((Json.object software).get "scope")
  source := cleanText printed ((Json.object software).get "source")
  firstSeenAt := submission.receivedAt
  lastSeenAt := submission.receivedAt

/-- `ON CONFLICT (asset_id, name, category) DO UPDATE`. -/
def SoftwareRow.overwrite (excluded row : SoftwareRow) : SoftwareRow :=
  { row with
    detected := excluded.detected
    version := excluded.version.or row.version
    evidence := excluded.evidence
    confidence := excluded.confidence.or row.confidence
    scope := excluded.scope.or row.scope
    source := excluded.source.or row.source
    lastSeenAt := excluded.lastSeenAt }

/-- `_upsert_software_detection`; `bindBoolean` is what the driver makes of a value for a boolean column. -/
def upsertSoftwareDetection (table : SerialTable SoftwareRow.Apart) (assetId : Nat) (software : List (String × Json)) :
    Option (SerialTable SoftwareRow.Apart × Nat) :=
  match softwareName printed software with
  | none => some (table, 0)
  | some name =>
    (bindBoolean ((Json.object software).get "detected")).bind fun detected =>
      let excluded := softwareRow submission printed assetId name software detected
      (table.upsert (SoftwareRow.conflicts assetId name excluded.category) excluded.overwrite excluded).map
        fun result => (result.1, 1)

end Statements

section Normalize

variable (printed : Json → String) (bindBoolean : Json → Option (Option Bool)) (submission : Submission)

/-- The two statements of a sighting. -/
def sight (database : Database) (sighting : Sighting) : Option (Database × Nat) := do
  let (assets, assetId) ← upsertAsset submission database.assets sighting
  let addresses ← recordIpObservation submission database.addresses assetId sighting
  return ({ database with assets, addresses }, assetId)

def sightAll : Database → List Sighting → Option (Database × List Nat)
  | database, [] => some (database, [])
  | database, sighting :: rest => do
    let (database, assetId) ← sight submission database sighting
    let (database, assetIds) ← sightAll database rest
    return (database, assetId :: assetIds)

def detectAll (assetId : Nat) : Database → List (List (String × Json)) → Option (Database × Nat)
  | database, [] => some (database, 0)
  | database, software :: rest => do
    let (table, counted) ← upsertSoftwareDetection submission printed bindBoolean database.software assetId software
    let (database, others) ← detectAll assetId { database with software := table } rest
    return (database, counted + others)

/-- The software of a submission belongs to its device. -/
def detectSoftware (localAsset : List Nat) (database : Database) : Option (Database × Nat) :=
  match localAsset with
  | assetId :: _ => detectAll printed bindBoolean submission assetId database (softwareEntries submission)
  | [] => some (database, 0)

structure NormalizedCounts where
  normalizedAssetCount : Nat
  normalizedSoftwareCount : Nat
deriving DecidableEq, Repr

/-- The transaction of `normalize_inventory_submission`; there is no result when a statement fails. -/
def normalizeInventorySubmission (database : Database) : Option (Database × NormalizedCounts) := do
  let (collectors, _) ← upsertCollector printed database.collectors (submission.collectorCall printed)
  let (database, localAsset) ← sightAll submission { database with collectors } (localDevice printed submission).toList
  let (database, neighbors) ← sightAll submission database (neighborSightings printed submission)
  let (database, softwareCount) ← detectSoftware printed bindBoolean submission localAsset database
  return (database, ⟨(localAsset ++ neighbors).dedup.length, softwareCount⟩)

/-- The database after the submission; a transaction that fails is rolled back. -/
def Database.normalize (database : Database) (submission : Submission) : Database :=
  ((normalizeInventorySubmission printed bindBoolean submission database).map Prod.fst).getD database

end Normalize

end OpenAssetWatch.Registry
